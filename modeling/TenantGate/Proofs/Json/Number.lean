import TenantGate.Json.Document
import TenantGate.Proofs.Number
import TenantGate.Proofs.Number.Exact
/-!
# The numbers of JSON texts

A number of a JSON text is an integer that one of the two words of 64 bits holds, or a finite double
(`Json.isProper_of_read?`), and it denotes a rational number.
-/

namespace TenantGate

namespace JsonNumber

/-- The numbers that a text can have: integers of a signed or an unsigned word, and finite
doubles. -/
def IsProper : JsonNumber → Prop
  | .integer i => Number.int64Least ≤ i ∧ i < UInt64.size
  | .double x => x.isFinite = true

instance : DecidablePred IsProper
  | .integer i => inferInstanceAs (Decidable (Number.int64Least ≤ i ∧ i < UInt64.size))
  | .double x => inferInstanceAs (Decidable (x.isFinite = true))

/-- The exact value. -/
def toRat : JsonNumber → ℚ
  | .integer i => i
  | .double x => x.toRat

variable {n : JsonNumber}

/-- The double nearest to a number is finite. -/
theorem IsProper.isFinite_toBinary64 (hn : n.IsProper) : n.toBinary64.isFinite = true := by
  cases n with
  | integer i =>
    obtain ⟨hleast, hlt⟩ := hn
    have hleast : -2 ^ 63 ≤ i := hleast
    have hlt : i < 2 ^ 64 := hlt
    exact Binary64.isFinite_ofInt (by omega)
  | double x => exact hn

end JsonNumber

/-- What is scaled by a power of ten is checked to be finite at the end. -/
theorem Binary64.isFinite_of_scale? {x y : Binary64} {e : Int} (h : x.scale? e = some y) :
    y.isFinite = true := by
  obtain ⟨hfinite, heq⟩ := Option.ite_none_right_eq_some.1 h
  cases heq
  exact hfinite

/-- A word takes in digits only as long as it holds the number they make. -/
theorem Document.significand_lt {n : Nat} (hn : n < UInt64.size) (cs : List Char) :
    (significand n cs).1 < UInt64.size := by
  induction cs generalizing n with
  | nil => exact hn
  | cons c cs ih =>
    rw [significand]
    split
    next hm => exact ih hm
    next => exact hn

/-- A numeral has a proper value, if it has one. -/
theorem Document.isProper_of_numberValue? {negative : Bool} {whole : List Char}
    {places : Option (List Char)} {exponent : Option Int} {n : JsonNumber}
    (h : numberValue? negative whole places exponent = some n) : n.IsProper := by
  obtain ⟨⟨-, -, -, -, hleast⟩, hword⟩ | ⟨-, hdouble⟩ := ite_eq_iff.1 h
  · have hlt : (significand 0 whole).1 < UInt64.size := significand_lt (by decide) whole
    cases hword
    refine ⟨hleast, ?_⟩
    split <;> omega
  · obtain ⟨x, hx, rfl⟩ := Option.map_eq_some_iff.1 hdouble
    exact Binary64.isFinite_of_scale? hx

/-- A numeral that is read is proper. -/
theorem Document.isProper_of_readNumber {cs r : List Char} {n : JsonNumber}
    (h : readNumber cs = some (some n, r)) : n.IsProper := by
  unfold readNumber at h
  dsimp only at h
  -- digits, a point and an exponent are read before the value is made
  obtain ⟨-, h⟩ := Option.ite_none_left_eq_some.1 h
  obtain ⟨⟨places, r⟩, -, h⟩ := Option.bind_eq_some_iff.1 h
  obtain ⟨⟨exponent, r⟩, -, h⟩ := Option.bind_eq_some_iff.1 h
  exact isProper_of_numberValue? (congrArg Prod.fst (Option.some.inj h))

/-- Numbers come from numerals only. -/
theorem Document.isProper_of_readValue {cs : List Char} {n : JsonNumber} {r : Rest cs}
    (h : readValue cs = some (.number (some n), r)) : n.IsProper := by
  -- strings, arrays and objects are told apart by their first character
  rw [readValue] at h
  split at h
  · cases h
  · obtain ⟨⟨_, _⟩, -, heq⟩ := Option.map_eq_some_iff.1 h
    cases heq
  · split at h
    · cases h
    · obtain ⟨⟨_, _⟩, -, heq⟩ := Option.map_eq_some_iff.1 h
      cases heq
  · split at h
    · cases h
    · obtain ⟨⟨_, _⟩, -, heq⟩ := Option.map_eq_some_iff.1 h
      cases heq
  · split at h
    · split at h
      next m t hn =>
        cases h
        exact isProper_of_readNumber hn
      next => cases h
    · split at h
      next d t hword =>
        cases h
        unfold readWord at hword
        split at hword <;> cases hword
      next => cases h

/-- A number that is read from a text is proper. -/
theorem Json.isProper_of_read? {s : String} {n : JsonNumber} (h : read? s = some (.number n)) :
    n.IsProper := by
  obtain ⟨d, hd, hvalue⟩ := Option.bind_eq_some_iff.1 h
  have hnumber : d = .number (some n) := by
    cases d with
    | number m =>
      obtain ⟨m, rfl, heq⟩ := Option.map_eq_some_iff.1 hvalue
      cases heq
      rfl
    | null => cases hvalue
    | bool b => cases hvalue
    | string s =>
      obtain ⟨_, -, heq⟩ := Option.map_eq_some_iff.1 hvalue
      cases heq
    | array items =>
      rw [Document.toJson?] at hvalue
      obtain ⟨-, hvalue⟩ := Option.ite_none_left_eq_some.1 hvalue
      obtain ⟨_, -, heq⟩ := Option.map_eq_some_iff.1 hvalue
      cases heq
    | object fields =>
      rw [Document.toJson?] at hvalue
      obtain ⟨-, hvalue⟩ := Option.ite_none_left_eq_some.1 hvalue
      obtain ⟨_, -, heq⟩ := Option.map_eq_some_iff.1 hvalue
      cases heq
  subst hnumber
  rw [Document.read?] at hd
  split at hd
  next v r hr hread =>
    obtain ⟨-, heq⟩ := Option.ite_none_right_eq_some.1 hd
    cases heq
    exact Document.isProper_of_readValue hread
  next => cases hd

end TenantGate
