import TenantGate.Proofs.Time.Calendar
import TenantGate.Proofs.Time.Digits
/-!
# Date and time of day

A point in time has a date and a time of day (`Timestamp.civil`), and each date and time of day is
that of a point in time (`CivilTime.instant`), leap seconds included. The two are ordered alike, and
so are the texts `YYYY-MM-DD HH:MM:SS`.
-/

namespace TenantGate

open Timestamp

/-- A date in a year of four digits. -/
structure Date.IsPlain (d : Date) : Prop where
  isValid : d.isValid = true
  year_nonneg : 0 ≤ d.year
  year_le : d.year ≤ 9999

/-- A date and a time of day. Second 60 is a leap second. -/
structure CivilTime where
  date : Date
  hour : Nat
  minute : Nat
  second : Nat

namespace CivilTime

/-- A date in a year of four digits, and a time of day. -/
structure IsValid (c : CivilTime) : Prop where
  date : c.date.IsPlain
  hour_lt : c.hour < 24
  minute_lt : c.minute < 60
  second_le : c.second ≤ 60

/-- The point in time that is some nanoseconds later, in UTC. -/
def instant (c : CivilTime) (nano : Nat) : Timestamp :=
  if c.second < 60 then ofDate c.date c.hour c.minute c.second nano
  else ofDate c.date c.hour c.minute 59 (nanosPerSecond + nano)

/-- `HH:MM:SS`. -/
def clockChars (c : CivilTime) : List Char :=
  padded 2 c.hour ++ ':' :: padded 2 c.minute ++ ':' :: padded 2 c.second

/-- `YYYY-MM-DD HH:MM:SS`. -/
def profileText (c : CivilTime) : String :=
  String.ofList (dateChars c.date ++ ' ' :: c.clockChars)

end CivilTime

namespace Timestamp

/-- A second of the day, and a fraction that is a whole second or more only in a leap second. -/
structure IsProper (t : Timestamp) : Prop where
  second_lt : t.second < 86400
  nano_lt : t.nano < 2 * nanosPerSecond
  leap : nanosPerSecond ≤ t.nano → t.second % 60 = 59

/-- Seconds since 1970-01-01, leap seconds aside. -/
def unixSeconds (t : Timestamp) : Int := t.day * 86400 + t.second

/-- The date and the time of day. -/
def civil (t : Timestamp) : CivilTime :=
  ⟨t.date, t.second / 3600, t.second / 60 % 60, t.secondOfMinute⟩

/-- The earlier of two points in time. -/
def Precedes (t t' : Timestamp) : Prop :=
  t.day < t'.day ∨ t.day = t'.day ∧
    (t.second < t'.second ∨ t.second = t'.second ∧ t.nano < t'.nano)

end Timestamp

/-! ### Dates

In a year of four digits a date is ten characters, which is what its text and its order go by. -/

namespace Date

variable {d d' : Date} {c : Char} {r r' : List Char}

theorem IsPlain.isOfCalendar (hd : d.IsPlain) : d.IsOfCalendar := (isValid_iff.1 hd.isValid).2

/-- A date of the calendar in a year of four digits is plain. -/
theorem IsOfCalendar.isPlain (hd : d.IsOfCalendar) (hpos : 0 ≤ d.year) (hle : d.year ≤ 9999) :
    d.IsPlain := by
  refine ⟨isValid_iff.2 ⟨⟨?_, ?_⟩, hd⟩, hpos, hle⟩
  · exact Int.le_trans (by decide) hpos
  · exact Int.le_trans hle (by decide)

/-- No month is longer than 31 days. -/
theorem monthLength_le (year : Int) (month : Nat) : monthLength year month ≤ 31 := by
  unfold monthLength
  split
  · split <;> decide
  all_goals decide

/-- Year, month and day fit the digits they are written with. -/
theorem IsPlain.lt_width (hd : d.IsPlain) :
    d.year.natAbs < 10 ^ 4 ∧ d.month < 10 ^ 2 ∧ d.dayOfMonth < 10 ^ 2 := by
  have hpos := hd.year_nonneg
  have hle := hd.year_le
  have hmonth := hd.isOfCalendar.month_le
  have hday := hd.isOfCalendar.dayOfMonth_le
  have hlength := monthLength_le d.year d.month
  omega

/-- A date and what follows it, part by part as it is read. -/
theorem IsPlain.dateChars_append (hd : d.IsPlain) (r : List Char) :
    dateChars d ++ r = padded 4 d.year.natAbs ++
      '-' :: (padded 2 d.month ++ '-' :: (padded 2 d.dayOfMonth ++ r)) := by
  have hyear : yearChars d.year = padded 4 d.year.natAbs :=
    if_pos ⟨hd.year_nonneg, hd.year_le⟩
  rw [dateChars, hyear]
  simp

/-- Dates are written in their order. -/
theorem IsPlain.dateChars_append_lt_iff (hd : d.IsPlain) (hd' : d'.IsPlain) :
    dateChars d ++ c :: r < dateChars d' ++ c :: r' ↔ d.Precedes d' ∨ d = d' ∧ r < r' := by
  obtain ⟨hyear, hmonth, hday⟩ := hd.lt_width
  obtain ⟨hyear', hmonth', hday'⟩ := hd'.lt_width
  have hpos := hd.year_nonneg
  have hpos' := hd'.year_nonneg
  have hyears : d.year.natAbs < d'.year.natAbs ↔ d.year < d'.year := by omega
  have hyears' : d.year.natAbs = d'.year.natAbs ↔ d.year = d'.year := by omega
  rw [hd.dateChars_append, hd'.dateChars_append, padded_append_lt_iff (by decide) hyear hyear',
    padded_append_lt_iff (by decide) hmonth hmonth', padded_append_lt_iff (by decide) hday hday',
    hyears, hyears']
  obtain ⟨year, month, day⟩ := d
  obtain ⟨year', month', day'⟩ := d'
  rw [Date.mk.injEq]
  simp only [Precedes, and_or_left, or_assoc, and_assoc]

end Date

/-! ### Points in time

A point in time and a date with a time of day are made of each other. A leap second is kept as
second 59 with a fraction of more than one second, which is why the fraction is needed for either
direction. -/

namespace CivilTime

variable {c c' : CivilTime} {nano : Nat}

/-- A time of day and what follows it, part by part as it is read. -/
theorem clockChars_append (c : CivilTime) (r : List Char) :
    c.clockChars ++ r =
      padded 2 c.hour ++ ':' :: (padded 2 c.minute ++ ':' :: (padded 2 c.second ++ r)) := by
  simp [clockChars]

/-- The day is that of the date. -/
theorem day_instant : (c.instant nano).day = c.date.day := by
  unfold instant
  split <;> rfl

/-- A leap second is counted as the second before it. -/
theorem second_instant :
    (c.instant nano).second = c.hour * 3600 + c.minute * 60 + min c.second 59 := by
  unfold instant
  split
  next h => rw [Nat.min_eq_left (Nat.le_of_lt_succ h), ofDate]
  next h => rw [Nat.min_eq_right (Nat.le_of_succ_le (Nat.not_lt.1 h)), ofDate]

/-- A leap second makes the fraction a second longer. -/
theorem nano_instant :
    (c.instant nano).nano = if c.second < 60 then nano else nanosPerSecond + nano := by
  unfold instant
  split <;> rfl

/-- A fraction does not change the seconds. -/
theorem unixSeconds_instant : (c.instant nano).unixSeconds = (c.instant 0).unixSeconds := by
  rw [unixSeconds, unixSeconds, day_instant, day_instant, second_instant, second_instant]

/-- A date and a time of day make a proper point in time. -/
theorem IsValid.isProper (hc : c.IsValid) (hnano : nano < nanosPerSecond) :
    (c.instant nano).IsProper := by
  obtain ⟨-, hhour, hminute, hsecond⟩ := hc
  refine ⟨?_, ?_, ?_⟩
  · rw [second_instant]
    omega
  · rw [nano_instant]
    split <;> omega
  · rw [second_instant, nano_instant]
    split <;> omega

/-- The date and the time of day of a point in time are those that it was made from. -/
theorem IsValid.civil_instant (hc : c.IsValid) (hnano : nano < nanosPerSecond) :
    (c.instant nano).civil = c := by
  have hdate : Date.ofDay c.date.day = c.date := hc.date.isOfCalendar.ofDay_day
  obtain ⟨-, hhour, hminute, hsecond⟩ := hc
  have hhours : (c.instant nano).second / 3600 = c.hour := by
    rw [second_instant]
    omega
  have hminutes : (c.instant nano).second / 60 % 60 = c.minute := by
    rw [second_instant]
    omega
  have hseconds : (c.instant nano).secondOfMinute = c.second := by
    rw [secondOfMinute, second_instant, nano_instant]
    unfold nanosPerSecond at hnano ⊢
    split <;> omega
  rw [civil, Timestamp.date, day_instant, hdate, hhours, hminutes, hseconds]

end CivilTime

namespace Timestamp

variable {t : Timestamp}

/-- A proper point in time is found again from its date, its time of day and its fraction. -/
theorem IsProper.instant_civil (ht : t.IsProper) :
    t.civil.instant (t.nano % nanosPerSecond) = t := by
  have hday : t.civil.date.day = t.day := Date.day_ofDay t.day
  have hsecond : (t.civil.instant (t.nano % nanosPerSecond)).second = t.second := by
    rw [CivilTime.second_instant, civil, secondOfMinute]
    dsimp only
    obtain ⟨-, hnano, hleap⟩ := ht
    unfold nanosPerSecond at hnano hleap ⊢
    omega
  have hnano : (t.civil.instant (t.nano % nanosPerSecond)).nano = t.nano := by
    rw [CivilTime.nano_instant, civil, secondOfMinute]
    dsimp only
    obtain ⟨-, hnano, hleap⟩ := ht
    unfold nanosPerSecond at hnano hleap ⊢
    split <;> omega
  show Timestamp.mk (t.civil.instant _).day (t.civil.instant _).second (t.civil.instant _).nano = t
  rw [CivilTime.day_instant, hday, hsecond, hnano]

/-- The date and the time of day of a proper point in time are valid in a year of four digits. -/
theorem IsProper.isValid_civil (ht : t.IsProper) (hpos : 0 ≤ t.date.year)
    (hle : t.date.year ≤ 9999) : t.civil.IsValid := by
  obtain ⟨hsecond, hnano, hleap⟩ := ht
  refine ⟨(Date.isOfCalendar_ofDay t.day).isPlain hpos hle, ?_, ?_, ?_⟩
  · show t.second / 3600 < 24
    omega
  · exact Nat.mod_lt _ (by decide)
  · show t.second % 60 + t.nano / nanosPerSecond ≤ 60
    unfold nanosPerSecond at hnano hleap ⊢
    omega

end Timestamp

/-! ### The order

Three orders are shown to be one: that of points in time, that of dates with times of day, and that
of texts. Texts agree because every part of them has a fixed width. -/

namespace CivilTime

variable {c c' : CivilTime}

/-- The earlier of two dates and times of day. -/
def Precedes (c c' : CivilTime) : Prop :=
  c.date.Precedes c'.date ∨ c.date = c'.date ∧
    (c.hour < c'.hour ∨ c.hour = c'.hour ∧
      (c.minute < c'.minute ∨ c.minute = c'.minute ∧ c.second < c'.second))

/-- Points in time are ordered as their dates and times of day are. -/
theorem IsValid.precedes_instant_iff (hc : c.IsValid) (hc' : c'.IsValid) :
    (c.instant 0).Precedes (c'.instant 0) ↔ c.Precedes c' := by
  have hclock : ((c.instant 0).second < (c'.instant 0).second ∨
      (c.instant 0).second = (c'.instant 0).second ∧ (c.instant 0).nano < (c'.instant 0).nano) ↔
      (c.hour < c'.hour ∨ c.hour = c'.hour ∧
        (c.minute < c'.minute ∨ c.minute = c'.minute ∧ c.second < c'.second)) := by
    obtain ⟨-, hhour, hminute, hsecond⟩ := hc
    obtain ⟨-, hhour', hminute', hsecond'⟩ := hc'
    rw [second_instant, second_instant, nano_instant, nano_instant, nanosPerSecond]
    split <;> split <;> omega
  unfold Timestamp.Precedes Precedes
  rw [hclock, day_instant, day_instant, hc.date.isOfCalendar.day_lt_day_iff hc'.date.isOfCalendar,
    hc.date.isOfCalendar.day_inj hc'.date.isOfCalendar]

/-- Hours, minutes and seconds fit the digits they are written with. -/
theorem IsValid.lt_width (hc : c.IsValid) :
    c.hour < 10 ^ 2 ∧ c.minute < 10 ^ 2 ∧ c.second < 10 ^ 2 := by
  obtain ⟨-, hhour, hminute, hsecond⟩ := hc
  omega

/-- Times of day are written in their order. -/
theorem IsValid.clockChars_lt_iff (hc : c.IsValid) (hc' : c'.IsValid) :
    c.clockChars < c'.clockChars ↔ c.hour < c'.hour ∨ c.hour = c'.hour ∧
      (c.minute < c'.minute ∨ c.minute = c'.minute ∧ c.second < c'.second) := by
  obtain ⟨hhour, hminute, hsecond⟩ := hc.lt_width
  obtain ⟨hhour', hminute', hsecond'⟩ := hc'.lt_width
  have hchars (c : CivilTime) :
      c.clockChars = padded 2 c.hour ++ ':' :: (padded 2 c.minute ++ ':' :: padded 2 c.second) := by
    simp [clockChars]
  rw [hchars, hchars, padded_append_lt_iff (by decide) hhour hhour',
    padded_append_lt_iff (by decide) hminute hminute', padded_lt_iff (by decide) hsecond hsecond']

/-- Dates and times of day are written in their order. -/
theorem IsValid.profileText_lt_iff (hc : c.IsValid) (hc' : c'.IsValid) :
    c.profileText < c'.profileText ↔ c.Precedes c' := by
  show c.profileText.toList < c'.profileText.toList ↔ _
  unfold profileText Precedes
  rw [String.toList_ofList, String.toList_ofList, hc.date.dateChars_append_lt_iff hc'.date,
    hc.clockChars_lt_iff hc']

end CivilTime

end TenantGate
