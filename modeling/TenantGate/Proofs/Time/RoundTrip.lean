import TenantGate.Proofs.Time.Civil
import TenantGate.Proofs.Time.Offset
/-!
# Times are read back

The three forms of a time, as they are written: a local time with its offset from UTC
(`CivilTime.offsetText`), a date and a time of day (`CivilTime.profileText`), and a date
(`Date.text`). Each of them is read by its own form and by none before it. What is read in any form
is a point in time that has a date and a time of day (`Timestamp.isProper_of_read?`), so that
writing and reading it again gives the same point.
-/

namespace TenantGate

open Number Text Timestamp

/-! ### What is written is read

One lemma for each form and the text of that form, and one for each earlier form, which must not
take the text for its own. The forms are tried in the order offset, date with time, date alone. -/

namespace CivilTime

/-- The date and the time of day, a fraction of the second, and the offset from UTC:
`YYYY-MM-DDTHH:MM:SS.F±HH:MM`. -/
def offsetText (c : CivilTime) (fraction : List Char) (o : Offset) : String :=
  String.ofList (dateChars c.date ++
    'T' :: (c.clockChars ++ (writtenFraction fraction ++ o.chars)))

variable {c : CivilTime} {d : Date}

/-- The parts of a valid date and time of day make its point in time. -/
theorem IsValid.ofFields?_eq (hc : c.IsValid) (nano : Nat) :
    ofFields? c.date.year c.date.month c.date.dayOfMonth c.hour c.minute c.second nano =
      some (c.instant nano) := by
  have hvalid : c.date.isValid = true ∧ c.hour < 24 ∧ c.minute < 60 :=
    ⟨hc.date.isValid, hc.hour_lt, hc.minute_lt⟩
  have hleap : leapSecond? c.second nano =
      some (if c.second < 60 then (c.second, nano) else (59, nanosPerSecond + nano)) := by
    have hle := hc.second_le
    unfold leapSecond?
    split
    next => rfl
    next h => rw [if_pos (by omega)]
  rw [ofFields?, hleap, instant]
  simp only [Option.bind_eq_bind, Option.bind_some]
  rw [if_pos hvalid]
  split <;> rfl

/-- After a date, a mark and a time of day a fraction and an offset are awaited. -/
theorem IsValid.readOffsetForm?_eq (hc : c.IsValid) {mark : Char} (hmark : mark = 'T' ∨ mark = ' ')
    (r : List Char) : readOffsetForm? (dateChars c.date ++ mark :: (c.clockChars ++ r)) =
      (readFraction r).bind fun (nano, r) => (readOffset r).bind fun (offset, r) =>
        if r.isEmpty then some ((c.instant nano).addSeconds (-offset)) else none := by
  obtain ⟨hyear, hmonth, hday⟩ := hc.date.lt_width
  obtain ⟨hhour, hminute, hsecond⟩ := hc.lt_width
  have hseparator (r : List Char) (f : List Char → Option Timestamp) :
      (readSeparator (mark :: r)).bind f = f r := by
    rcases hmark with rfl | rfl <;> rfl
  have hnat : (c.date.year.natAbs : Int) = c.date.year := Int.natAbs_of_nonneg hc.date.year_nonneg
  rw [hc.date.dateChars_append, clockChars_append, readOffsetForm?]
  simp only [↓Option.bind_eq_bind, ↓bind_fixedNumber (by decide) hyear, ↓bind_expect,
    ↓bind_fixedNumber (by decide) hmonth, ↓bind_fixedNumber (by decide) hday, ↓hseparator,
    ↓bind_fixedNumber (by decide) hhour, ↓bind_fixedNumber (by decide) hminute,
    ↓bind_fixedNumber (by decide) hsecond, hnat, hc.ofFields?_eq, Option.map_some]

/-- A local time is read with its fraction and its offset. -/
theorem IsValid.readOffsetForm?_offsetText (hc : c.IsValid) {fraction : List Char} {o : Offset}
    (hfraction : ∀ d ∈ fraction, d.isDigit = true) (ho : o.minutes < 1440) :
    readOffsetForm? (c.offsetText fraction o).toList =
      some ((c.instant (nanosOf fraction)).addSeconds (-o.seconds)) := by
  have hmark : ∀ c ∈ o.chars.head?, c.isDigit = false ∧ c ≠ '.' := by
    cases o <;> simp [Offset.chars]
  rw [offsetText, String.toList_ofList, hc.readOffsetForm?_eq (.inl rfl),
    readFraction_written hfraction hmark, Option.bind_some]
  dsimp only
  rw [readOffset_chars ho]
  rfl

/-- A date and a time of day without an offset are not read as a local time. -/
theorem IsValid.readOffsetForm?_profileText (hc : c.IsValid) :
    readOffsetForm? c.profileText.toList = none := by
  have hread : readOffsetForm? (dateChars c.date ++ ' ' :: (c.clockChars ++ [])) = _ :=
    hc.readOffsetForm?_eq (.inr rfl) []
  rw [List.append_nil] at hread
  rw [profileText, String.toList_ofList, hread]
  rfl

end CivilTime

/-- A date is read, and what follows it is left. -/
theorem Date.IsPlain.readDate_eq {d : Date} (hd : d.IsPlain) (r : List Char) :
    readDate (dateChars d ++ r) = some ((d.year, d.month, d.dayOfMonth), r) := by
  obtain ⟨hyear, hmonth, hday⟩ := hd.lt_width
  have hnat : (d.year.natAbs : Int) = d.year := Int.natAbs_of_nonneg hd.year_nonneg
  rw [hd.dateChars_append, readDate, signedYear_padded hyear]
  simp only [Option.bind_eq_bind, ↓Option.bind_some, ↓bind_expect,
    ↓bind_shortNumber (by decide) hmonth, ↓bind_shortNumber (by decide) hday, hnat]
  rfl

/-- A date and a time of day are read from their text. -/
theorem CivilTime.IsValid.readDateTimeForm?_profileText {c : CivilTime} (hc : c.IsValid) :
    readDateTimeForm? c.profileText.toList = some (c.instant 0) := by
  obtain ⟨hhour, hminute, hsecond⟩ := hc.lt_width
  have hlast : shortNumber 2 (padded 2 c.second) = some (c.second, []) := by
    rw [← List.append_nil (padded 2 c.second)]
    exact shortNumber_padded (by decide) hsecond
  rw [profileText, String.toList_ofList, readDateTimeForm?, hc.date.readDate_eq, clockChars]
  simp only [Option.bind_eq_bind, Option.bind_some, List.append_assoc, List.cons_append,
    shortNumber_blank, ↓bind_shortNumber (by decide) hhour, ↓bind_expect,
    ↓bind_shortNumber (by decide) hminute, hlast, List.isEmpty_nil, if_true]
  exact hc.ofFields?_eq 0

namespace Date

variable {d : Date}

/-- A date is read with nothing after it. -/
theorem IsPlain.readDate_dateChars (hd : d.IsPlain) :
    readDate (dateChars d) = some ((d.year, d.month, d.dayOfMonth), []) := by
  rw [← List.append_nil (dateChars d)]
  exact hd.readDate_eq []

/-- A date alone is read neither as a local time nor with a time of day. -/
theorem IsPlain.readForm?_text (hd : d.IsPlain) :
    readOffsetForm? (dateChars d) = none ∧ readDateTimeForm? (dateChars d) = none := by
  obtain ⟨hyear, hmonth, hday⟩ := hd.lt_width
  constructor
  · rw [← List.append_nil (dateChars d), hd.dateChars_append, readOffsetForm?]
    simp only [↓Option.bind_eq_bind, ↓bind_fixedNumber (by decide) hmonth, ↓bind_expect,
      ↓bind_fixedNumber (by decide) hday, ↓bind_fixedNumber (by decide) hyear]
    rfl
  · rw [readDateTimeForm?, hd.readDate_dateChars]
    rfl

/-- A date alone is read as its midnight. -/
theorem IsPlain.readDateForm?_text (hd : d.IsPlain) :
    readDateForm? (dateChars d) = some (ofDate d 0 0 0 0) := by
  have hc : CivilTime.IsValid ⟨d, 0, 0, 0⟩ :=
    ⟨hd, Nat.zero_lt_succ _, Nat.zero_lt_succ _, Nat.zero_le _⟩
  rw [readDateForm?, hd.readDate_dateChars]
  exact hc.ofFields?_eq 0

end Date

/-! ### Texts

A text is trimmed before any form is tried. Nothing that is written begins or ends with a blank, so
trimming changes nothing. -/

section Texts

variable {c : CivilTime} {d : Date}

/-- No blank is in an offset. -/
theorem Offset.not_blank_of_mem_chars {o : Offset} : ∀ c ∈ o.chars, isBlank c = false := by
  have hminutes {m : Nat} : ∀ c ∈ minutesChars m, isBlank c = false := by
    unfold minutesChars
    rw [List.forall_mem_append, List.forall_mem_cons]
    exact ⟨not_blank_of_mem_padded, rfl, not_blank_of_mem_padded⟩
  cases o with
  | utc => exact List.forall_mem_singleton.2 rfl
  | east m => exact List.forall_mem_cons.2 ⟨rfl, hminutes⟩
  | west m => exact List.forall_mem_cons.2 ⟨rfl, hminutes⟩

/-- What begins with a date is trimmed if it ends without blanks. -/
theorem Date.IsPlain.trimChars_eq (hd : d.IsPlain) {r b : List Char} (hb : b <:+ r) (hbne : b ≠ [])
    (hbvisible : ∀ c ∈ b, isBlank c = false) :
    trimChars (dateChars d ++ r) = dateChars d ++ r := by
  have hyear : padded 4 d.year.natAbs <+: dateChars d ++ r := by
    rw [hd.dateChars_append]
    exact List.prefix_append _ _
  exact trimChars_eq_self_of_visible hyear (hb.trans (List.suffix_append _ _)) padded_ne_nil hbne
    not_blank_of_mem_padded hbvisible

/-- A local time is read by the first form. -/
theorem CivilTime.IsValid.read?_offsetText (hc : c.IsValid) {fraction : List Char} {o : Offset}
    (hfraction : ∀ d ∈ fraction, d.isDigit = true) (ho : o.minutes < 1440) :
    read? (c.offsetText fraction o) =
      some ((c.instant (nanosOf fraction)).addSeconds (-o.seconds)) := by
  have htrim : trimChars (c.offsetText fraction o).toList = (c.offsetText fraction o).toList := by
    rw [offsetText, String.toList_ofList]
    have hne : o.chars ≠ [] := by
      cases o <;> exact List.cons_ne_nil _ _
    refine hc.date.trimChars_eq ?_ hne Offset.not_blank_of_mem_chars
    rw [← List.append_assoc, ← List.cons_append]
    exact List.suffix_append _ _
  rw [read?, htrim, hc.readOffsetForm?_offsetText hfraction ho, Option.some_or]

/-- A date and a time of day are read by the second form. -/
theorem CivilTime.IsValid.read?_profileText (hc : c.IsValid) :
    read? c.profileText = some (c.instant 0) := by
  have htrim : trimChars c.profileText.toList = c.profileText.toList := by
    rw [profileText, String.toList_ofList]
    have hsecond : padded 2 c.second <:+ ' ' :: c.clockChars :=
      (List.suffix_cons _ _).trans ((List.suffix_append _ _).trans (List.suffix_cons _ _))
    exact hc.date.trimChars_eq hsecond padded_ne_nil not_blank_of_mem_padded
  rw [read?, htrim, hc.readOffsetForm?_profileText, hc.readDateTimeForm?_profileText,
    Option.none_or, Option.some_or]

/-- A date is read by the last form. -/
theorem Date.IsPlain.read?_text (hd : d.IsPlain) : read? d.text = some (ofDate d 0 0 0 0) := by
  have hvisible : ∀ c ∈ dateChars d, isBlank c = false := by
    rw [← List.append_nil (dateChars d), hd.dateChars_append]
    simp only [List.forall_mem_append, List.forall_mem_cons]
    exact ⟨not_blank_of_mem_padded, rfl, not_blank_of_mem_padded, rfl, not_blank_of_mem_padded,
      List.forall_mem_nil _⟩
  have hne : dateChars d ≠ [] := by
    rw [← List.append_nil (dateChars d), hd.dateChars_append]
    exact List.append_ne_nil_of_left_ne_nil padded_ne_nil _
  have htrim : trimChars d.text.toList = dateChars d := by
    rw [Date.text, String.toList_ofList]
    exact trimChars_eq_self_of_visible List.prefix_rfl List.suffix_rfl hne hne hvisible hvisible
  obtain ⟨hoffset, htime⟩ := hd.readForm?_text
  rw [read?, htrim, hoffset, htime, hd.readDateForm?_text, Option.none_or, Option.none_or]

end Texts

/-! ### What is read

Whatever text was accepted, what was read is a proper point in time: the fields have been checked,
and the offset is in whole minutes, so that a leap second stays at the end of a minute. -/

namespace Timestamp

variable {cs : List Char} {t : Timestamp}

/-- Whole minutes leave a proper point in time proper. -/
theorem IsProper.addSeconds (ht : t.IsProper) {seconds : Int} (h : seconds % 60 = 0) :
    (t.addSeconds seconds).IsProper := by
  obtain ⟨hsecond, hnano, hleap⟩ := ht
  unfold Timestamp.addSeconds
  refine ⟨?_, hnano, fun hwhole => ?_⟩
  · dsimp only
    omega
  · have hmark := hleap hwhole
    dsimp only
    omega

/-- Fields that are accepted make a proper point in time. -/
theorem isProper_of_ofFields? {year : Int} {month day hour minute second nano : Nat}
    (h : ofFields? year month day hour minute second nano = some t)
    (hnano : nano < nanosPerSecond) : t.IsProper := by
  obtain ⟨⟨second', nano'⟩, hleap, h⟩ := Option.bind_eq_some_iff.1 h
  obtain ⟨⟨-, hhour, hminute⟩, h⟩ := Option.ite_none_right_eq_some.1 h
  cases h
  -- second 60 is kept as second 59 with a longer fraction
  have hcases : second' < 59 ∧ nano' < nanosPerSecond ∨
      second' = 59 ∧ nano' < 2 * nanosPerSecond := by
    unfold leapSecond? at hleap
    split at hleap
    next =>
      cases hleap
      omega
    next =>
      obtain ⟨-, heq⟩ := Option.ite_none_right_eq_some.1 hleap
      cases heq
      omega
  unfold ofDate
  refine ⟨?_, ?_, fun hwhole => ?_⟩ <;> dsimp only at * <;> omega

/-- The first form gives proper points in time. -/
theorem isProper_of_readOffsetForm? (h : readOffsetForm? cs = some t) : t.IsProper := by
  -- the digits and marks before the fraction do not matter
  obtain ⟨⟨year, r⟩, -, h⟩ := Option.bind_eq_some_iff.1 h
  obtain ⟨r, -, h⟩ := Option.bind_eq_some_iff.1 h
  obtain ⟨⟨month, r⟩, -, h⟩ := Option.bind_eq_some_iff.1 h
  obtain ⟨r, -, h⟩ := Option.bind_eq_some_iff.1 h
  obtain ⟨⟨day, r⟩, -, h⟩ := Option.bind_eq_some_iff.1 h
  obtain ⟨r, -, h⟩ := Option.bind_eq_some_iff.1 h
  obtain ⟨⟨hour, r⟩, -, h⟩ := Option.bind_eq_some_iff.1 h
  obtain ⟨r, -, h⟩ := Option.bind_eq_some_iff.1 h
  obtain ⟨⟨minute, r⟩, -, h⟩ := Option.bind_eq_some_iff.1 h
  obtain ⟨r, -, h⟩ := Option.bind_eq_some_iff.1 h
  obtain ⟨⟨second, r⟩, -, h⟩ := Option.bind_eq_some_iff.1 h
  obtain ⟨⟨nano, r⟩, hfraction, h⟩ := Option.bind_eq_some_iff.1 h
  obtain ⟨⟨offset, r⟩, hoffset, h⟩ := Option.bind_eq_some_iff.1 h
  obtain ⟨-, h⟩ := Option.ite_none_right_eq_some.1 h
  obtain ⟨u, hu, rfl⟩ := Option.map_eq_some_iff.1 h
  have hnano := nano_lt_of_readFraction hfraction
  apply (isProper_of_ofFields? hu hnano).addSeconds
  have hminutes := emod_of_readOffset hoffset
  omega

/-- So does the second. -/
theorem isProper_of_readDateTimeForm? (h : readDateTimeForm? cs = some t) : t.IsProper := by
  rw [readDateTimeForm?] at h
  simp only [↓Option.bind_eq_bind, ↓Option.bind_eq_some_iff, ↓Prod.exists] at h
  obtain ⟨year, month, day, r, -, hour, r, -, r, -, minute, r, -, r, -, second, r, -, h⟩ := h
  obtain ⟨-, h⟩ := Option.ite_none_right_eq_some.1 h
  exact isProper_of_ofFields? h (by decide)

/-- And the last. -/
theorem isProper_of_readDateForm? (h : readDateForm? cs = some t) : t.IsProper := by
  rw [readDateForm?] at h
  simp only [↓Option.bind_eq_bind, ↓Option.bind_eq_some_iff, ↓Prod.exists] at h
  obtain ⟨year, month, day, r, -, h⟩ := h
  obtain ⟨-, h⟩ := Option.ite_none_right_eq_some.1 h
  exact isProper_of_ofFields? h (by decide)

/-- What is read has a second of the day, and a leap second only at the end of a minute. -/
theorem isProper_of_read? {s : String} (h : read? s = some t) : t.IsProper := by
  rcases Option.or_eq_some_iff.1 h with h | ⟨-, h⟩
  · exact isProper_of_readOffsetForm? h
  rcases Option.or_eq_some_iff.1 h with h | ⟨-, h⟩
  · exact isProper_of_readDateTimeForm? h
  · exact isProper_of_readDateForm? h

/-- The fraction of a second is written with digits that give it back. -/
theorem exists_fractionChars (t : Timestamp) :
    ∃ ds, (∀ d ∈ ds, d.isDigit = true) ∧ t.fractionChars = writtenFraction ds ∧
      nanosOf ds = t.nano % nanosPerSecond := by
  have hlt : t.nano % nanosPerSecond < 1000000000 := Nat.mod_lt _ (by decide)
  have hwritten (width n : Nat) : '.' :: padded width n = writtenFraction (padded width n) := by
    rw [writtenFraction, if_neg]
    rw [List.isEmpty_iff]
    exact padded_ne_nil
  unfold fractionChars
  dsimp only
  generalize t.nano % nanosPerSecond = n at hlt
  -- nothing, three, six or nine digits, whichever are enough
  split
  next hzero => exact ⟨[], List.forall_mem_nil _, rfl, hzero.symm⟩
  split
  next hmillis =>
    refine ⟨_, fun _ => isDigit_of_mem_padded, hwritten _ _, ?_⟩
    rw [nanosOf_padded (by decide) (by decide) (by omega)]
    omega
  split
  next hmicros =>
    refine ⟨_, fun _ => isDigit_of_mem_padded, hwritten _ _, ?_⟩
    rw [nanosOf_padded (by decide) (by decide) (by omega)]
    omega
  next =>
    refine ⟨_, fun _ => isDigit_of_mem_padded, hwritten _ _, ?_⟩
    rw [nanosOf_padded (by decide) (by decide) hlt]
    omega

/-- Seconds are added to the seconds since 1970. -/
theorem unixSeconds_addSeconds (t : Timestamp) (seconds : Int) :
    (t.addSeconds seconds).unixSeconds = t.unixSeconds + seconds := by
  unfold unixSeconds Timestamp.addSeconds
  dsimp only
  omega

/-- To add no seconds changes nothing. -/
theorem addSeconds_zero {t : Timestamp} (ht : t.IsProper) : t.addSeconds 0 = t := by
  obtain ⟨hsecond, -, -⟩ := ht
  obtain ⟨day, second, nano⟩ := t
  unfold Timestamp.addSeconds
  dsimp only at *
  rw [mk.injEq]
  omega

/-- A time with a date and a time of day is read back from its RFC 3339 form. -/
theorem IsProper.read?_text (ht : t.IsProper) (hpos : 0 ≤ t.date.year)
    (hle : t.date.year ≤ 9999) : read? t.text = some t := by
  obtain ⟨ds, hds, hfraction, hnanos⟩ := exists_fractionChars t
  have htext : t.text = t.civil.offsetText ds (.east 0) := by
    rw [text, CivilTime.offsetText, hfraction]
    show String.ofList (dateChars t.date ++ 'T' :: t.civil.clockChars ++ writtenFraction ds ++
      ['+', '0', '0', ':', '0', '0']) = _
    rw [List.append_assoc, List.append_assoc, List.cons_append]
    rfl
  rw [htext, (ht.isValid_civil hpos hle).read?_offsetText hds (by decide), hnanos, ht.instant_civil]
  exact congrArg some (addSeconds_zero ht)

end Timestamp

/-! ### Round trips

The parts above, put together for each of the texts. -/

/-- Times are read as they are written. A date and a time of day in a year of four digits are read
from their text, and formatting what was read gives the text back; a date is read as its midnight;
texts of one form are ordered as the points in time are; a local time is read as the point in time
that its offset makes of it, the fraction to the ninth digit; and the RFC 3339 form of whatever was
read is read as the same point. -/
theorem times_read_back :
    (∀ c : CivilTime, c.IsValid →
      read? c.profileText = some (c.instant 0) ∧
        (c.instant 0).profileText = c.profileText) ∧
    (∀ d : Date, d.IsPlain →
      read? d.text = some (ofDate d 0 0 0 0) ∧ (ofDate d 0 0 0 0).date = d) ∧
    (∀ c c' : CivilTime, c.IsValid → c'.IsValid →
      (c.profileText < c'.profileText ↔ (c.instant 0).Precedes (c'.instant 0)) ∧
        (c.profileText ≠ c'.profileText → c.instant 0 ≠ c'.instant 0)) ∧
    (∀ (c : CivilTime) (fraction : List Char) (o : Offset), c.IsValid →
      (∀ d ∈ fraction, d.isDigit = true) → o.minutes < 24 * 60 →
      ∃ t, read? (c.offsetText fraction o) = some t ∧ t.IsProper ∧
        t.unixSeconds = (c.instant 0).unixSeconds - o.seconds ∧
        t.nano = (c.instant (nanosOf fraction)).nano) ∧
    ∀ (s : String) (t : Timestamp), read? s = some t → 0 ≤ t.date.year → t.date.year ≤ 9999 →
      read? t.text = some t := by
  have hprofile {c : CivilTime} (hc : c.IsValid) : (c.instant 0).profileText = c.profileText := by
    show (c.instant 0).civil.profileText = c.profileText
    rw [hc.civil_instant (by decide)]
  refine ⟨?_, ?_, ?_, ?_, ?_⟩
  · intro c hc
    exact ⟨hc.read?_profileText, hprofile hc⟩
  · intro d hd
    exact ⟨hd.read?_text, hd.isOfCalendar.ofDay_day⟩
  · intro c c' hc hc'
    constructor
    · rw [hc.profileText_lt_iff hc', hc.precedes_instant_iff hc']
    · intro hne hinstant
      apply hne
      rw [← hprofile hc, hinstant, hprofile hc']
  · intro c fraction o hc hfraction ho
    refine ⟨_, hc.read?_offsetText hfraction ho, ?_, ?_, rfl⟩
    · apply (hc.isProper (nanosOf_lt hfraction)).addSeconds
      cases o <;> dsimp only [Offset.seconds] <;> omega
    · rw [unixSeconds_addSeconds, CivilTime.unixSeconds_instant]
      rfl
  · intro s t hread hpos hle
    exact (isProper_of_read? hread).read?_text hpos hle

/-- A leap second on a leap day, the leap day of year 0, and offsets beyond the end of a year. -/
theorem times_read_back_leap :
    let leap : CivilTime := ⟨⟨2000, 2, 29⟩, 23, 59, 60⟩
    let next : CivilTime := ⟨⟨2000, 3, 1⟩, 0, 0, 0⟩
    let evening : CivilTime := ⟨⟨2023, 12, 31⟩, 20, 30, 0⟩
    let leapDay : Date := ⟨0, 2, 29⟩
    (leap.profileText = "2000-02-29 23:59:60" ∧ read? leap.profileText = some (leap.instant 0) ∧
      (leap.instant 0).profileText = leap.profileText) ∧
    (leapDay.text = "0000-02-29" ∧ read? leapDay.text = some (ofDate leapDay 0 0 0 0)) ∧
    (leap.profileText < next.profileText ∧ (leap.instant 0).Precedes (next.instant 0)) ∧
    (evening.offsetText ['2', '5'] (.west 330) = "2023-12-31T20:30:00.25-05:30" ∧
      ∃ t, read? (evening.offsetText ['2', '5'] (.west 330)) = some t ∧
        t.unixSeconds = 1704074400 ∧ t.nano = 250000000) ∧
    ∃ t, read? "2016-12-31T18:59:60.5-05:00" = some t ∧ t.text = "2016-12-31T23:59:60.500+00:00" ∧
      read? t.text = some t := by
  intro leap next evening leapDay
  obtain ⟨hprofile, hdate, horder, hoffset, htext⟩ := times_read_back
  have hleap : leap.IsValid :=
    ⟨⟨by decide, by decide, by decide⟩, by decide, by decide, by decide⟩
  have hnext : next.IsValid :=
    ⟨⟨by decide, by decide, by decide⟩, by decide, by decide, by decide⟩
  have hevening : evening.IsValid :=
    ⟨⟨by decide, by decide, by decide⟩, by decide, by decide, by decide⟩
  refine ⟨⟨by decide +kernel, hprofile leap hleap⟩, ⟨by decide +kernel, ?_⟩, ?_, ?_, ?_⟩
  · exact (hdate leapDay ⟨by decide, by decide, by decide⟩).1
  · have hlt : leap.profileText < next.profileText := by decide +kernel
    exact ⟨hlt, (horder leap next hleap hnext).1.1 hlt⟩
  · have hdigits : ∀ d ∈ ['2', '5'], d.isDigit = true :=
      List.forall_mem_cons.2 ⟨rfl, List.forall_mem_singleton.2 rfl⟩
    obtain ⟨t, hread, -, hseconds, hnano⟩ :=
      hoffset evening ['2', '5'] (.west 330) hevening hdigits (by decide)
    have hutc : (evening.instant 0).unixSeconds - (Offset.west 330).seconds = 1704074400 := by
      decide +kernel
    have hquarter : (evening.instant (nanosOf ['2', '5'])).nano = 250000000 := by decide +kernel
    rw [hutc] at hseconds
    rw [hquarter] at hnano
    exact ⟨by decide +kernel, t, hread, hseconds, hnano⟩
  · have hread : read? "2016-12-31T18:59:60.5-05:00" = some ⟨17166, 86399, 1500000000⟩ := by
      decide +kernel
    exact ⟨_, hread, by decide +kernel, htext _ _ hread (by decide +kernel) (by decide +kernel)⟩

end TenantGate
