import TenantGate.Number.Numeral
import TenantGate.Time.Calendar
/-!
# Points in time

A `Timestamp` is a day, a second of that day and a fraction in nanoseconds, all in UTC. A leap
second is the second before it with a fraction of a whole second or more, so it prints as second
60 and counts as one second more.
-/

namespace TenantGate

/-- A UTC time: days since 1970-01-01, the second of the day, and nanoseconds. -/
structure Timestamp where
  day : Int
  second : Nat
  nano : Nat
  deriving DecidableEq, Repr

namespace Timestamp

def nanosPerSecond : Nat := 1000000000

def ofDate (d : Date) (hour minute second nano : Nat) : Timestamp :=
  ⟨d.day, hour * 3600 + minute * 60 + second, nano⟩

/-- A time a number of seconds later; the fraction stays. -/
def addSeconds (t : Timestamp) (seconds : Int) : Timestamp :=
  let total := (t.second : Int) + seconds
  ⟨t.day + total / 86400, (total % 86400).toNat, t.nano⟩

/-! ### Counting from a fixed point -/

/-- Microseconds since 1970-01-01, rounded down. -/
def unixMicros (t : Timestamp) : Int :=
  (t.day * 86400 + t.second) * 1000000 + (t.nano / 1000 : Nat)

/-- The day number of 2000-01-01, from which the server counts. -/
def serverEpochDay : Int := 10957

/-- Microseconds since 2000-01-01, rounded toward that point. -/
def serverMicros (t : Timestamp) : Int :=
  Int.tdiv ((((t.day - serverEpochDay) * 86400 + t.second) * nanosPerSecond) + t.nano) 1000

/-- The time a number of microseconds after 2000-01-01. -/
def ofServerMicros (micros : Int) : Timestamp :=
  let seconds := micros / 1000000
  ⟨serverEpochDay + seconds / 86400, (seconds % 86400).toNat, (micros % 1000000).toNat * 1000⟩

/-! ### Writing -/

/-- `n` with at least `width` digits. -/
def padded (width n : Nat) : List Char :=
  let ds := Number.natChars n
  List.replicate (width - ds.length) '0' ++ ds

/-- A year: four digits, and outside 0 to 9999 a sign before at least four digits. -/
def yearChars (year : Int) : List Char :=
  if 0 ≤ year ∧ year ≤ 9999 then padded 4 year.natAbs
  else (if year < 0 then '-' else '+') :: padded 4 year.natAbs

/-- `YYYY-MM-DD`. -/
def dateChars (d : Date) : List Char :=
  yearChars d.year ++ '-' :: padded 2 d.month ++ '-' :: padded 2 d.dayOfMonth

/-- The second of the minute, 60 in a leap second. -/
def secondOfMinute (t : Timestamp) : Nat := t.second % 60 + t.nano / nanosPerSecond

/-- `HH:MM:SS`. -/
def clockChars (t : Timestamp) : List Char :=
  padded 2 (t.second / 3600) ++ ':' :: padded 2 (t.second / 60 % 60)
    ++ ':' :: padded 2 t.secondOfMinute

/-- The fraction after a point: the fewest of 0, 3, 6 and 9 digits that hold it. -/
def fractionChars (t : Timestamp) : List Char :=
  let n := t.nano % nanosPerSecond
  if n = 0 then []
  else if n % 1000000 = 0 then '.' :: padded 3 (n / 1000000)
  else if n % 1000 = 0 then '.' :: padded 6 (n / 1000)
  else '.' :: padded 9 n

def date (t : Timestamp) : Date := .ofDay t.day

/-- `YYYY-MM-DD HH:MM:SS`, without the fraction. -/
def profileText (t : Timestamp) : String :=
  String.ofList (dateChars t.date ++ ' ' :: t.clockChars)

/-- `YYYY-MM-DDTHH:MM:SS` with the fraction and without a zone. -/
def localText (t : Timestamp) : String :=
  String.ofList (dateChars t.date ++ 'T' :: t.clockChars ++ t.fractionChars)

/-- The RFC 3339 form, with the offset `+00:00`. -/
def text (t : Timestamp) : String :=
  String.ofList (dateChars t.date ++ 'T' :: t.clockChars ++ t.fractionChars
    ++ ['+', '0', '0', ':', '0', '0'])

end Timestamp

/-- `YYYY-MM-DD` of a date. -/
def Date.text (d : Date) : String := String.ofList (Timestamp.dateChars d)

end TenantGate
