import TenantGate.Text.Blank
import TenantGate.Time.Timestamp
/-!
# Reading times

Three forms are tried in order: an RFC 3339 time with its offset, a date and a time of day, and a
date alone, which is its midnight. The last two are in UTC and allow short numbers and blanks
before them.
-/

namespace TenantGate.Timestamp

open Text

/-! ### Numbers and marks -/

def expect (c : Char) : List Char → Option (List Char)
  | [] => none
  | d :: r => if d = c then some r else none

/-- The number of exactly two or four digits at the beginning. -/
def fixedNumber (width : Nat) (cs : List Char) : Option (Nat × List Char) :=
  let ds := cs.take width
  if ds.length = width ∧ ds.all Char.isDigit then some (Nat.ofDigitChars 10 ds 0, cs.drop width)
  else none

/-- The number of one to `most` digits at the beginning, after any blanks. -/
def shortNumber (most : Nat) (cs : List Char) : Option (Nat × List Char) :=
  let cs := trimStart cs
  let ds := (cs.take most).takeWhile Char.isDigit
  if ds.isEmpty then none else some (Nat.ofDigitChars 10 ds 0, cs.drop ds.length)

/-- A year after any blanks: up to four digits, or any number of digits after a sign. -/
def signedYear (cs : List Char) : Option (Int × List Char) :=
  let signed (r : List Char) : Option (Nat × List Char) :=
    let ds := r.takeWhile Char.isDigit
    if ds.isEmpty then none else some (Nat.ofDigitChars 10 ds 0, r.dropWhile Char.isDigit)
  match trimStart cs with
  | '-' :: r => (signed r).map fun (n, r) => (-(n : Int), r)
  | '+' :: r => (signed r).map fun (n, r) => ((n : Int), r)
  | r => (shortNumber 4 r).map fun (n, r) => ((n : Int), r)

/-- A second from 0 to 60; the last is a leap second, the 59th with a whole second as its
fraction. -/
def leapSecond? (second nano : Nat) : Option (Nat × Nat) :=
  if second < 60 then some (second, nano)
  else if second = 60 then some (59, nanosPerSecond + nano)
  else none

/-- A valid time of day on a valid date. -/
def ofFields? (year : Int) (month dayOfMonth hour minute second nano : Nat) : Option Timestamp := do
  let date : Date := ⟨year, month, dayOfMonth⟩
  let (second, nano) ← leapSecond? second nano
  if date.isValid ∧ hour < 24 ∧ minute < 60 then some (ofDate date hour minute second nano)
  else none

/-! ### RFC 3339 -/

/-- A fraction in nanoseconds: digits beyond the ninth are dropped. -/
def readFraction : List Char → Option (Nat × List Char)
  | '.' :: r =>
    let ds := r.takeWhile Char.isDigit
    if ds.isEmpty then none
    else
      let kept := ds.take 9
      some (Nat.ofDigitChars 10 kept 0 * Nat.pow 10 (9 - kept.length), r.dropWhile Char.isDigit)
  | r => some (0, r)

/-- An offset from UTC in seconds: `Z`, or a sign, hours and minutes. -/
def readOffset : List Char → Option (Int × List Char)
  | [] => none
  | c :: r =>
    if c = 'Z' ∨ c = 'z' then some (0, r)
    else do
      let sign : Int ←
        if c = '+' then some 1
        else if c = '-' ∨ c = Char.ofNat 0x2212 then some (-1)
        else none
      let (hours, r) ← fixedNumber 2 r
      let r ← expect ':' r
      let (minutes, r) ← fixedNumber 2 r
      if hours ≤ 23 ∧ minutes ≤ 59 then some (sign * (hours * 3600 + minutes * 60), r) else none

def readSeparator : List Char → Option (List Char)
  | 'T' :: r | 't' :: r | ' ' :: r => some r
  | _ => none

/-- An RFC 3339 time. -/
def readOffsetForm? (cs : List Char) : Option Timestamp := do
  let (year, r) ← fixedNumber 4 cs
  let r ← expect '-' r
  let (month, r) ← fixedNumber 2 r
  let r ← expect '-' r
  let (day, r) ← fixedNumber 2 r
  let r ← readSeparator r
  let (hour, r) ← fixedNumber 2 r
  let r ← expect ':' r
  let (minute, r) ← fixedNumber 2 r
  let r ← expect ':' r
  let (second, r) ← fixedNumber 2 r
  let (nano, r) ← readFraction r
  let (offset, r) ← readOffset r
  if r.isEmpty then
    (ofFields? year month day hour minute second nano).map (·.addSeconds (-offset))
  else none

/-! ### Date and time of day -/

/-- Year, month and day with hyphens between them. -/
def readDate (cs : List Char) : Option ((Int × Nat × Nat) × List Char) := do
  let (year, r) ← signedYear cs
  let r ← expect '-' r
  let (month, r) ← shortNumber 2 r
  let r ← expect '-' r
  let (day, r) ← shortNumber 2 r
  return ((year, month, day), r)

/-- A date, blanks or nothing, and a time of day. -/
def readDateTimeForm? (cs : List Char) : Option Timestamp := do
  let ((year, month, day), r) ← readDate cs
  let (hour, r) ← shortNumber 2 r
  let r ← expect ':' r
  let (minute, r) ← shortNumber 2 r
  let r ← expect ':' r
  let (second, r) ← shortNumber 2 r
  if r.isEmpty then ofFields? year month day hour minute second 0 else none

def readDateForm? (cs : List Char) : Option Timestamp := do
  let ((year, month, day), r) ← readDate cs
  if r.isEmpty then ofFields? year month day 0 0 0 0 else none

/-- The time that a text gives in one of the three forms, blanks around it aside. -/
def read? (s : String) : Option Timestamp :=
  let cs := trimChars s.toList
  (readOffsetForm? cs).or ((readDateTimeForm? cs).or (readDateForm? cs))

end TenantGate.Timestamp
