import Mathlib.Tactic.IntervalCases
import TenantGate.Time.Calendar
/-!
# Days and dates

The dates of the calendar are numbered by `Date.day` in their order and without gaps, and
`Date.ofDay` undoes it. Both count years from March: a date lies in the year that has begun last
(`yearStart`), in the month of that year that has begun last (`monthStart`), and which day of the
year it is decides which dates there are (`dayOfMonth_le_iff`). From this the numbers are seen to be
ordered as the dates are; that each number has a date is left to the arithmetic of an era.
-/

namespace TenantGate.Date

/-- A day of a month, in whatever year. -/
structure IsOfCalendar (d : Date) : Prop where
  month_pos : 1 ≤ d.month
  month_le : d.month ≤ 12
  dayOfMonth_pos : 1 ≤ d.dayOfMonth
  dayOfMonth_le : d.dayOfMonth ≤ monthLength d.year d.month

/-- A date is valid if it is one of the calendar in a year that can be counted. -/
theorem isValid_iff {d : Date} :
    d.isValid = true ↔ (leastYear ≤ d.year ∧ d.year ≤ greatestYear) ∧ d.IsOfCalendar := by
  simp only [isValid, Bool.and_eq_true, decide_eq_true_eq]
  constructor
  · rintro ⟨⟨⟨⟨⟨hleast, hgreatest⟩, hmonth⟩, hmonth'⟩, hday⟩, hday'⟩
    exact ⟨⟨hleast, hgreatest⟩, hmonth, hmonth', hday, hday'⟩
  · rintro ⟨⟨hleast, hgreatest⟩, hmonth, hmonth', hday, hday'⟩
    exact ⟨⟨⟨⟨⟨hleast, hgreatest⟩, hmonth⟩, hmonth'⟩, hday⟩, hday'⟩

/-- The earlier of two dates: years, months and days are compared in this order. -/
def Precedes (d d' : Date) : Prop :=
  d.year < d'.year ∨ d.year = d'.year ∧
    (d.month < d'.month ∨ d.month = d'.month ∧ d.dayOfMonth < d'.dayOfMonth)

/-- Two dates are the same, or one of them is earlier. -/
theorem precedes_trichotomy (d d' : Date) : d.Precedes d' ∨ d = d' ∨ d'.Precedes d := by
  rw [Date.mk.injEq]
  unfold Precedes
  omega

/-! ### Years from March

Counted from March, the leap day is the last of its year, and the months before it have lengths of a
regular pattern. So the start of a year and the start of a month in it are given by two formulas,
and only the end of a year depends on leap years. -/

/-- Every fourth year is a leap year, but of the centuries only every fourth one. -/
theorem isLeap_iff {y : Int} : isLeap y = true ↔ y % 4 = 0 ∧ (y % 100 ≠ 0 ∨ y % 400 = 0) := by
  simp [isLeap]

/-- The leap days of a year: one or none. -/
def leapDays (y : Int) : Int := if isLeap y then 1 else 0

/-- A year has at most one leap day. -/
theorem leapDays_le (y : Int) : leapDays y ≤ 1 := by
  unfold leapDays
  split <;> decide

/-- The days before March of a year, counted from March of the year 0. -/
def yearStart (y : Int) : Int := y * 365 + y / 4 - y / 100 + y / 400

/-- The days of a year before a month, both counted from March. -/
def monthStart (m : Int) : Int := (153 * m + 2) / 5

/-- A year has the leap day that comes before the next March. -/
theorem yearStart_succ (y : Int) : yearStart (y + 1) = yearStart y + 365 + leapDays (y + 1) := by
  unfold yearStart leapDays
  split
  next h =>
    rw [isLeap_iff] at h
    omega
  next h =>
    rw [isLeap_iff] at h
    omega

/-- A later year starts when the earlier one has ended, or after that. -/
theorem yearStart_le_of_lt {y y' : Int} (h : y < y') : yearStart (y + 1) ≤ yearStart y' := by
  unfold yearStart
  omega

/-- So does a later month. -/
theorem monthStart_le_of_lt {m m' : Int} (h : m < m') : monthStart (m + 1) ≤ monthStart m' := by
  unfold monthStart
  omega

/-- The year that begins in March: January and February belong to the one before. -/
def marchYear (d : Date) : Int := if d.month ≤ 2 then d.year - 1 else d.year

/-- The months since March, from 0 to 11. -/
def marchMonth (d : Date) : Int := (d.month + 9) % 12

/-- The days since 1 March. -/
def dayOfYear (d : Date) : Int := monthStart d.marchMonth + d.dayOfMonth - 1

variable {d d' : Date}

/-- The number of a day is that of the days before its year, and of those before it in the year. The
days before 1970 are taken off. -/
theorem day_eq (d : Date) : d.day = yearStart d.marchYear + d.dayOfYear - 719468 := by
  unfold day dayOfYear
  show d.marchYear / 400 * 146097 + (d.marchYear % 400 * 365 + d.marchYear % 400 / 4
    - d.marchYear % 400 / 100 + (monthStart d.marchMonth + d.dayOfMonth - 1)) - 719468 = _
  unfold yearStart
  omega

/-- A month has the days that come before the next month and before the next year. -/
theorem dayOfMonth_le_iff (hmonth : 1 ≤ d.month ∧ d.month ≤ 12) :
    d.dayOfMonth ≤ monthLength d.year d.month ↔
      d.dayOfYear < monthStart (d.marchMonth + 1) ∧
        d.dayOfYear < 365 + leapDays (d.marchYear + 1) := by
  obtain ⟨year, month, day⟩ := d
  obtain ⟨hpos, hle⟩ := hmonth
  have hyear : year - 1 + 1 = year := Int.sub_add_cancel year 1
  dsimp only at hpos hle
  interval_cases month <;>
    simp only [monthLength, dayOfYear, marchMonth, marchYear, monthStart, leapDays] <;>
    simp [hyear] <;> split <;> omega

/-! ### The order

The three cases of an earlier date: an earlier year, an earlier month of one year, an earlier day of
one month. In each, the days up to the end of the earlier part come before all of the later one. -/

section Order

variable (hd : d.IsOfCalendar) (hd' : d'.IsOfCalendar)

include hd

/-- No day comes before the first of its year. -/
theorem IsOfCalendar.dayOfYear_nonneg : 0 ≤ d.dayOfYear := by
  have hday := hd.dayOfMonth_pos
  unfold dayOfYear monthStart marchMonth
  omega

/-- A day comes before the end of its month and of its year. -/
theorem IsOfCalendar.dayOfYear_lt : d.dayOfYear < monthStart (d.marchMonth + 1) ∧
    d.dayOfYear < 365 + leapDays (d.marchYear + 1) :=
  (dayOfMonth_le_iff ⟨hd.month_pos, hd.month_le⟩).1 hd.dayOfMonth_le

include hd'

/-- The order of dates is not changed by counting from March. -/
theorem IsOfCalendar.march_of_precedes (h : d.Precedes d') :
    d.marchYear < d'.marchYear ∨ d.marchYear = d'.marchYear ∧
      (d.marchMonth < d'.marchMonth ∨
        d.marchMonth = d'.marchMonth ∧ d.dayOfMonth < d'.dayOfMonth) := by
  have hmonth := hd.month_pos
  have hle := hd.month_le
  have hmonth' := hd'.month_pos
  have hle' := hd'.month_le
  unfold Precedes at h
  unfold marchYear marchMonth
  split <;> split <;> omega

/-- An earlier date has a smaller number. -/
theorem IsOfCalendar.day_lt_day (h : d.Precedes d') : d.day < d'.day := by
  have hlt := hd.dayOfYear_lt
  have hpos' := hd'.dayOfYear_nonneg
  have hday' := hd'.dayOfMonth_pos
  rw [day_eq, day_eq]
  -- an earlier year, an earlier month, or an earlier day
  rcases hd.march_of_precedes hd' h with hyear | ⟨hyear, hmonth | ⟨hmonth, hday⟩⟩
  · have hstart := yearStart_le_of_lt hyear
    rw [yearStart_succ] at hstart
    omega
  · have hstart := monthStart_le_of_lt hmonth
    have hdef' : d'.dayOfYear = monthStart d'.marchMonth + d'.dayOfMonth - 1 := rfl
    rw [hyear]
    omega
  · unfold dayOfYear
    rw [hyear, hmonth]
    omega

/-- Days are numbered in the order of their dates. -/
theorem IsOfCalendar.day_lt_day_iff : d.day < d'.day ↔ d.Precedes d' := by
  constructor
  · intro h
    rcases precedes_trichotomy d d' with hprec | rfl | hprec
    · exact hprec
    · exact absurd h (Int.lt_irrefl _)
    · exact absurd (hd'.day_lt_day hd hprec) (Int.lt_asymm h)
  · exact hd.day_lt_day hd'

/-- Different dates have different numbers. -/
theorem IsOfCalendar.day_inj : d.day = d'.day ↔ d = d' := by
  constructor
  · intro h
    rcases precedes_trichotomy d d' with hprec | heq | hprec
    · exact absurd h (Int.ne_of_lt (hd.day_lt_day hd' hprec))
    · exact heq
    · exact absurd h.symm (Int.ne_of_lt (hd'.day_lt_day hd hprec))
  · exact congrArg day

end Order

/-! ### The date of a day

Four centuries are an era of 146097 days, after which the pattern of years repeats. The year of a
day is found within the era by a quotient that is put right for leap days; that it is right is shown
by writing the day as centuries, leap cycles, years and a rest. -/

/-- The start of a year in an era: centuries, leap cycles of four years, and single years. -/
theorem yearStart_of_era {c q k : Int} (hc : 0 ≤ c ∧ c ≤ 3) (hq : 0 ≤ q ∧ q ≤ 24)
    (hk : 0 ≤ k ∧ k ≤ 3) :
    yearStart (100 * c + 4 * q + k) = 36524 * c + 1461 * q + 365 * k := by
  have h4 : (100 * c + 4 * q + k) / 4 = 25 * c + q := by omega
  have h100 : (100 * c + 4 * q + k) / 100 = c := by omega
  have h400 : (100 * c + 4 * q + k) / 400 = 0 := by omega
  rw [yearStart, h4, h100, h400]
  omega

/-- The year of an era in which a day lies. -/
def yearOfEra (n : Int) : Int := (n - n / 1460 + n / 36524 - n / 146096) / 365

/-- The year of an era that is found has begun, and the next one has not. -/
theorem yearOfEra_spec {n : Int} (hpos : 0 ≤ n) (hlt : n < 146097) :
    (0 ≤ yearOfEra n ∧ yearOfEra n < 400) ∧
      yearStart (yearOfEra n) ≤ n ∧ n < yearStart (yearOfEra n + 1) := by
  -- the last day of an era is the only one whose century is not `n / 36524`
  obtain rfl | hlast : n = 146096 ∨ n < 146096 := by omega
  · decide
  obtain ⟨c, r, hn, hcentury, hr⟩ :
      ∃ c r, n = 36524 * c + r ∧ n / 36524 = c ∧ 0 ≤ r ∧ r < 36524 :=
    ⟨n / 36524, n % 36524, by omega⟩
  obtain ⟨q, s, hr, hs⟩ : ∃ q s, r = 1461 * q + s ∧ 0 ≤ s ∧ s < 1461 :=
    ⟨r / 1461, r % 1461, by omega⟩
  obtain ⟨k, t, hs, hk, ht⟩ :
      ∃ k t, s = 365 * k + t ∧ (0 ≤ k ∧ k ≤ 3) ∧ 0 ≤ t ∧ (t < 365 ∨ t = 365 ∧ k = 3) :=
    ⟨min (s / 365) 3, s - 365 * min (s / 365) 3, by omega⟩
  have hc : 0 ≤ c ∧ c ≤ 3 := by omega
  have hq : 0 ≤ q ∧ (q < 24 ∨ q = 24 ∧ s < 1460) := by omega
  have hyear : yearOfEra n = 100 * c + 4 * q + k := by
    have hcycle : n / 1460 = 25 * c + q + (24 * c + q + s) / 1460 := by omega
    unfold yearOfEra
    omega
  have hstart := yearStart_of_era hc ⟨hq.1, by omega⟩ hk
  rw [hyear, yearStart_succ, hstart, leapDays]
  refine ⟨by omega, by omega, ?_⟩
  split
  next => omega
  next h =>
    rw [isLeap_iff] at h
    omega

theorem yearStart_add_era (y era : Int) :
    yearStart (y + era * 400) = yearStart y + era * 146097 := by
  unfold yearStart
  omega

/-- Every era has the same leap days. -/
theorem leapDays_add_era (y era : Int) : leapDays (y + era * 400 + 1) = leapDays (y + 1) := by
  have hstart := yearStart_succ (y + era * 400)
  rw [Int.add_right_comm, yearStart_add_era, yearStart_succ, yearStart_add_era] at hstart
  rw [Int.add_right_comm]
  omega

/-- The date of a year, a month and a day of the month, the first two counted from March. -/
def ofMarch (year month day : Int) : Date :=
  let m := if month < 10 then month + 3 else month - 9
  ⟨if m ≤ 2 then year + 1 else year, m.toNat, day.toNat⟩

section OfMarch

variable {year month day : Int} (hmonth : 0 ≤ month ∧ month ≤ 11)

include hmonth

/-- Months counted from March are months. -/
theorem month_ofMarch :
    1 ≤ (ofMarch year month day).month ∧ (ofMarch year month day).month ≤ 12 := by
  unfold ofMarch
  dsimp only
  split <;> omega

/-- Counting from March again gives the same month. -/
theorem marchMonth_ofMarch : (ofMarch year month day).marchMonth = month := by
  unfold ofMarch marchMonth
  dsimp only
  split <;> omega

/-- Counting from March again gives the same year. -/
theorem marchYear_ofMarch : (ofMarch year month day).marchYear = year := by
  unfold ofMarch marchYear
  dsimp only
  split <;> omega

/-- The days before such a date are those before its month and before it in the month. -/
theorem dayOfYear_ofMarch (hday : 0 ≤ day) :
    (ofMarch year month day).dayOfYear = monthStart month + day - 1 := by
  rw [dayOfYear, marchMonth_ofMarch hmonth]
  show monthStart month + (day.toNat : Int) - 1 = _
  rw [Int.toNat_of_nonneg hday]

end OfMarch

/-- The month in which a day of the year lies. -/
theorem month_spec {n : Int} (hpos : 0 ≤ n) (hle : n ≤ 365) :
    (0 ≤ (5 * n + 2) / 153 ∧ (5 * n + 2) / 153 ≤ 11) ∧
      monthStart ((5 * n + 2) / 153) ≤ n ∧ n < monthStart ((5 * n + 2) / 153 + 1) := by
  unfold monthStart
  omega

/-- The date of a day in terms of the year in its era and the month in that year. -/
theorem ofDay_eq (n : Int) :
    ofDay n =
      let year := yearOfEra ((n + 719468) % 146097)
      let k := (n + 719468) % 146097 - (365 * year + year / 4 - year / 100)
      let month := (5 * k + 2) / 153
      ofMarch (year + (n + 719468) / 146097 * 400) month (k - monthStart month + 1) :=
  rfl

/-- The date of a day is the one in the year and the month that have begun last. -/
theorem exists_ofDay (n : Int) : ∃ year month k, ofDay n = ofMarch year month (k + 1) ∧
    (0 ≤ month ∧ month ≤ 11) ∧ 0 ≤ k ∧ monthStart month + k < monthStart (month + 1) ∧
      monthStart month + k < 365 + leapDays (year + 1) ∧
      yearStart year + (monthStart month + k) - 719468 = n := by
  have hera := Int.ediv_mul_add_emod (n + 719468) 146097
  obtain ⟨hyear, hstart, hnext⟩ := yearOfEra_spec (n := (n + 719468) % 146097)
    (Int.emod_nonneg _ (by decide)) (Int.emod_lt_of_pos _ (by decide))
  have hdate := ofDay_eq n
  dsimp only at hdate
  generalize (n + 719468) / 146097 = era at hera hdate
  generalize (n + 719468) % 146097 = dayOfEra at hera hyear hstart hnext hdate
  generalize yearOfEra dayOfEra = year at hyear hstart hnext hdate
  have hplain : yearStart year = 365 * year + year / 4 - year / 100 := by
    unfold yearStart
    omega
  -- the year that was found has begun, and the day lies before its end
  rw [yearStart_succ] at hnext
  rw [← hplain] at hdate
  obtain ⟨k, hk⟩ : ∃ k, dayOfEra - yearStart year = k := ⟨_, rfl⟩
  rw [hk] at hdate
  have hleap := leapDays_le (year + 1)
  obtain ⟨hmonth, hbegun, hends⟩ := month_spec (n := k) (by omega) (by omega)
  refine ⟨_, _, k - monthStart ((5 * k + 2) / 153), hdate, hmonth, by omega, by omega, ?_, ?_⟩
  · rw [leapDays_add_era]
    omega
  · rw [yearStart_add_era]
    omega

/-- The date of a day is one of the calendar. -/
theorem isOfCalendar_ofDay (n : Int) : (ofDay n).IsOfCalendar := by
  obtain ⟨year, month, k, hdate, hmonth, hk, hlt, hleap, -⟩ := exists_ofDay n
  rw [hdate]
  have hmonth' : 1 ≤ (ofMarch year month (k + 1)).month ∧ _ := month_ofMarch hmonth
  refine ⟨hmonth'.1, hmonth'.2, ?_, ?_⟩
  · show 1 ≤ (k + 1).toNat
    omega
  · rw [dayOfMonth_le_iff hmonth', dayOfYear_ofMarch hmonth (by omega), marchMonth_ofMarch hmonth,
      marchYear_ofMarch hmonth]
    omega

/-- The number of the date of a day is that day. -/
theorem day_ofDay (n : Int) : (ofDay n).day = n := by
  obtain ⟨year, month, k, hdate, hmonth, hk, -, -, hn⟩ := exists_ofDay n
  rw [hdate, day_eq, marchYear_ofMarch hmonth, dayOfYear_ofMarch hmonth (by omega)]
  omega

theorem IsOfCalendar.ofDay_day (hd : d.IsOfCalendar) : ofDay d.day = d :=
  ((isOfCalendar_ofDay d.day).day_inj hd).1 (day_ofDay d.day)

end TenantGate.Date
