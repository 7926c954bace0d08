/-!
# The Gregorian calendar

Dates are related to day numbers, day 0 being 1970-01-01. The calendar is counted in eras of 400
years from 1 March, so that the leap day is the last day of its year; `Date.ofDay` undoes
`Date.day`.
-/

namespace TenantGate

/-- A date of the proleptic Gregorian calendar. -/
structure Date where
  year : Int
  month : Nat
  dayOfMonth : Nat
  deriving DecidableEq, Repr

namespace Date

/-- Whether a year has a 29 February. -/
def isLeap (year : Int) : Bool := year % 4 = 0 && (year % 100 ≠ 0 || year % 400 = 0)

def monthLength (year : Int) (month : Nat) : Nat :=
  match month with
  | 2 => if isLeap year then 29 else 28
  | 4 | 6 | 9 | 11 => 30
  | _ => 31

/-- The years that a date may lie in. -/
def leastYear : Int := -262143

@[inherit_doc leastYear]
def greatestYear : Int := 262142

/-- A month and a day of that month, in a year within the limits. -/
def isValid (d : Date) : Bool :=
  leastYear ≤ d.year && d.year ≤ greatestYear && 1 ≤ d.month && d.month ≤ 12
    && 1 ≤ d.dayOfMonth && d.dayOfMonth ≤ monthLength d.year d.month

def day (d : Date) : Int :=
  let y := if d.month ≤ 2 then d.year - 1 else d.year
  let era := y / 400
  let yearOfEra := y % 400
  let monthFromMarch : Int := (d.month + 9) % 12
  let dayOfYear := (153 * monthFromMarch + 2) / 5 + d.dayOfMonth - 1
  era * 146097 + (yearOfEra * 365 + yearOfEra / 4 - yearOfEra / 100 + dayOfYear) - 719468

def ofDay (n : Int) : Date :=
  let z := n + 719468
  let era := z / 146097
  let dayOfEra := z % 146097
  let yearOfEra := (dayOfEra - dayOfEra / 1460 + dayOfEra / 36524 - dayOfEra / 146096) / 365
  let dayOfYear := dayOfEra - (365 * yearOfEra + yearOfEra / 4 - yearOfEra / 100)
  let monthFromMarch := (5 * dayOfYear + 2) / 153
  let month := if monthFromMarch < 10 then monthFromMarch + 3 else monthFromMarch - 9
  let year := yearOfEra + era * 400
  ⟨if month ≤ 2 then year + 1 else year, month.toNat,
    (dayOfYear - (153 * monthFromMarch + 2) / 5 + 1).toNat⟩

end Date
end TenantGate
