import TenantGate.Proofs.Time.Digits
/-!
# Offsets and fractions

What may follow the seconds of a time: a point and digits, of which nine count (`nanosOf`), and the
offset from UTC in whole minutes. Both are read back as they are written.
-/

namespace TenantGate

open Text Timestamp

/-! ### Offsets

An offset is `Z`, or a sign with hours and minutes below a day. East of UTC the local time is ahead.
-/

/-- How far a local time is from UTC. -/
inductive Offset where
  | utc
  | east (minutes : Nat)
  | west (minutes : Nat)

namespace Offset

/-- The minutes between local time and UTC, in whichever direction. -/
def minutes : Offset → Nat
  | utc => 0
  | east m | west m => m

/-- What a local time is ahead of UTC. -/
def seconds : Offset → Int
  | utc => 0
  | east m => m * 60
  | west m => -(m * 60)

/-- `HH:MM`. -/
def minutesChars (m : Nat) : List Char := padded 2 (m / 60) ++ ':' :: padded 2 (m % 60)

/-- `Z`, or a sign, hours and minutes. -/
def chars : Offset → List Char
  | utc => ['Z']
  | east m => '+' :: minutesChars m
  | west m => '-' :: minutesChars m

end Offset

namespace Timestamp

/-- The sign of an offset, the typographic minus included. -/
def offsetSign? (c : Char) : Option Int :=
  if c = '+' then some 1 else if c = '-' ∨ c = Char.ofNat 0x2212 then some (-1) else none

/-- Hours and minutes, in minutes. -/
def readMinutes (cs : List Char) : Option (Nat × List Char) := do
  let (hours, r) ← fixedNumber 2 cs
  let r ← expect ':' r
  let (minutes, r) ← fixedNumber 2 r
  if hours ≤ 23 ∧ minutes ≤ 59 then some (hours * 60 + minutes, r) else none

/-- An offset is read by its first character. -/
theorem readOffset_cons (c : Char) (r : List Char) : readOffset (c :: r) =
    if c = 'Z' ∨ c = 'z' then some (0, r)
    else (offsetSign? c).bind fun sign =>
      (readMinutes r).map fun (minutes, r) => (sign * (minutes * 60), r) := by
  -- what follows the sign does not depend on it
  have hsign (sign : Int) : (do
      let (hours, r) ← fixedNumber 2 r
      let r ← expect ':' r
      let (minutes, r) ← fixedNumber 2 r
      if hours ≤ 23 ∧ minutes ≤ 59 then some (sign * (hours * 3600 + minutes * 60), r) else none) =
      (readMinutes r).map fun (minutes, r) => (sign * (minutes * 60), r) := by
    simp only [readMinutes, Option.bind_eq_bind]
    rcases fixedNumber 2 r with _ | ⟨hours, r⟩
    · rfl
    simp only [Option.bind_some]
    rcases expect ':' r with _ | r
    · rfl
    simp only [Option.bind_some]
    rcases fixedNumber 2 r with _ | ⟨minutes, r⟩
    · rfl
    simp only [Option.bind_some]
    have hseconds : (hours * 3600 + minutes * 60 : Int) = (hours * 60 + minutes : Nat) * 60 := by
      omega
    rw [apply_ite (Option.map _), hseconds]
    rfl
  rw [readOffset]
  split
  next => rfl
  next =>
    unfold offsetSign?
    split
    next => exact hsign 1
    next =>
      split
      next => exact hsign (-1)
      next => rfl

/-- Hours and minutes below a day are read as they are written. -/
theorem readMinutes_written {m : Nat} (hm : m < 1440) :
    readMinutes (Offset.minutesChars m) = some (m, []) := by
  have hminutes : fixedNumber 2 (padded 2 (m % 60)) = some (m % 60, []) := by
    rw [← List.append_nil (padded 2 (m % 60))]
    exact fixedNumber_padded (by decide) (by omega)
  rw [readMinutes, Offset.minutesChars, fixedNumber_padded (by decide) (by omega)]
  simp only [Option.bind_eq_bind, Option.bind_some, expect, if_true, hminutes]
  rw [if_pos (by omega)]
  congr 2
  omega

/-- An offset is read as it is written. -/
theorem readOffset_chars {o : Offset} (ho : o.minutes < 1440) :
    readOffset o.chars = some (o.seconds, []) := by
  cases o with
  | utc => rfl
  | east m =>
    have hread : readMinutes (Offset.minutesChars m) = some (m, []) := readMinutes_written ho
    rw [Offset.chars, readOffset_cons, if_neg (by decide), hread]
    show some ((1 : Int) * (m * 60), []) = some ((m : Int) * 60, [])
    rw [Int.one_mul]
  | west m =>
    have hread : readMinutes (Offset.minutesChars m) = some (m, []) := readMinutes_written ho
    rw [Offset.chars, readOffset_cons, if_neg (by decide), hread]
    show some ((-1 : Int) * (m * 60), []) = some (-((m : Int) * 60), [])
    rw [Int.neg_mul, Int.one_mul]

/-- An offset is a whole number of minutes. -/
theorem emod_of_readOffset {cs r : List Char} {offset : Int}
    (h : readOffset cs = some (offset, r)) : offset % 60 = 0 := by
  cases cs with
  | nil => cases h
  | cons c cs =>
    rw [readOffset_cons] at h
    split at h
    next =>
      cases h
      rfl
    next =>
      obtain ⟨sign, -, h⟩ := Option.bind_eq_some_iff.1 h
      obtain ⟨⟨minutes, r⟩, -, h⟩ := Option.map_eq_some_iff.1 h
      cases h
      rw [← Int.mul_assoc]
      exact Int.mul_emod_left _ _

/-! ### Fractions

A fraction may have any number of digits. The first nine make nanoseconds, as if zeros followed
where there are fewer. -/

variable {ds r cs : List Char}

/-- The nanoseconds of the digits after a point, of which nine count. -/
def nanosOf (ds : List Char) : Nat :=
  Nat.ofDigitChars 10 ((ds ++ List.replicate 9 '0').take 9) 0

/-- A point and digits, or nothing. -/
def writtenFraction (ds : List Char) : List Char := if ds.isEmpty then [] else '.' :: ds

/-- The digits that count, and a power of ten for those that are missing. -/
theorem nanosOf_eq (ds : List Char) :
    nanosOf ds = Nat.ofDigitChars 10 (ds.take 9) 0 * Nat.pow 10 (9 - (ds.take 9).length) := by
  have htake : (ds ++ List.replicate 9 '0').take 9 =
      ds.take 9 ++ List.replicate (9 - (ds.take 9).length) '0' := by
    rw [List.take_append, List.take_replicate, List.length_take]
    congr 2
    omega
  rw [nanosOf, htake, Nat.ofDigitChars_append, Nat.ofDigitChars_replicate_zero, Nat.mul_comm]
  rfl

/-- A fraction is less than a second. -/
theorem nanosOf_lt (hds : ∀ d ∈ ds, d.isDigit = true) : nanosOf ds < nanosPerSecond := by
  have hdigits : ∀ d ∈ (ds ++ List.replicate 9 '0').take 9, d.isDigit = true := by
    intro d hd
    obtain hd | hd := List.mem_append.1 (List.mem_of_mem_take hd)
    · exact hds d hd
    · rw [List.eq_of_mem_replicate hd]
      rfl
  have hlt := ofDigitChars_lt hdigits
  have hlength : ((ds ++ List.replicate 9 '0').take 9).length = 9 := by simp
  rw [hlength] at hlt
  exact hlt

/-- A fraction that is written with fewer digits counts in larger units. -/
theorem nanosOf_padded {width n : Nat} (hpos : 0 < width) (hle : width ≤ 9) (hn : n < 10 ^ width) :
    nanosOf (padded width n) = n * 10 ^ (9 - width) := by
  have hlength := length_padded hpos hn
  rw [nanosOf_eq, List.take_of_length_le (by omega), ofDigitChars_padded, hlength]
  rfl

/-- A fraction is read as it is written, if neither a digit nor a point follows. -/
theorem readFraction_written (hds : ∀ d ∈ ds, d.isDigit = true)
    (hr : ∀ c ∈ r.head?, c.isDigit = false ∧ c ≠ '.') :
    readFraction (writtenFraction ds ++ r) = some (nanosOf ds, r) := by
  cases ds with
  | nil =>
    show readFraction r = some (0, r)
    unfold readFraction
    split
    next => exact absurd rfl (hr '.' rfl).2
    next => rfl
  | cons d ds =>
    -- the rest begins with no digit, so the digits end where the fraction does
    have hstop : r.takeWhile Char.isDigit = [] ∧ r.dropWhile Char.isDigit = r := by
      cases r with
      | nil => exact ⟨rfl, rfl⟩
      | cons c r =>
        have hc : ¬ c.isDigit = true := by simp [(hr c rfl).1]
        exact ⟨List.takeWhile_cons_of_neg hc, List.dropWhile_cons_of_neg hc⟩
    have htake : ((d :: ds) ++ r).takeWhile Char.isDigit = d :: ds := by
      rw [List.takeWhile_append_of_pos hds, hstop.1, List.append_nil]
    have hdrop : ((d :: ds) ++ r).dropWhile Char.isDigit = r := by
      rw [List.dropWhile_append_of_pos hds, hstop.2]
    show readFraction ('.' :: ((d :: ds) ++ r)) = _
    rw [readFraction, htake, hdrop, nanosOf_eq]
    rfl

/-- What is read as a fraction is less than a second. -/
theorem nano_lt_of_readFraction {nano : Nat} (h : readFraction cs = some (nano, r)) :
    nano < nanosPerSecond := by
  unfold readFraction at h
  split at h
  next =>
    obtain ⟨-, h⟩ := Option.ite_none_left_eq_some.1 h
    cases h
    rw [← nanosOf_eq]
    exact nanosOf_lt fun d hd => List.mem_takeWhile_imp hd
  next =>
    cases h
    decide

end Timestamp

end TenantGate
