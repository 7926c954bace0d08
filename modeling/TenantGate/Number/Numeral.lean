/-!
# Integers in decimal

Whole numbers are written without leading zeros and read back from a run of ASCII digits with an
optional sign. `readInt64?` and `readUInt64?` refuse what does not fit the word; they never wrap.
-/

namespace TenantGate.Number

/-- The least and the greatest integer of a signed 64-bit word. -/
def int64Least : Int := Int64.minValue.toInt

@[inherit_doc int64Least]
def int64Greatest : Int := Int64.maxValue.toInt

/-- The integers that a signed 64-bit word holds. -/
def fitsInt64 (i : Int) : Bool := int64Least ≤ i && i ≤ int64Greatest

/-- `i` as a word, if it fits. -/
def toInt64? (i : Int) : Option Int64 := if fitsInt64 i then some (Int64.ofInt i) else none

/-! ### Writing -/

/-- The decimal digits of `n`. -/
def natChars (n : Nat) : List Char := Nat.toDigits 10 n

/-- The decimal digits of `i`, after a minus sign if it is negative. -/
def intChars (i : Int) : List Char :=
  if i < 0 then '-' :: natChars i.natAbs else natChars i.natAbs

/-- `n` in decimal. -/
def natText (n : Nat) : String := String.ofList (natChars n)

/-- `i` in decimal. -/
def intText (i : Int) : String := String.ofList (intChars i)

/-! ### Reading -/

/-- The number that a non-empty run of digits stands for. -/
def readNat? (cs : List Char) : Option Nat :=
  if !cs.isEmpty && cs.all Char.isDigit then some (Nat.ofDigitChars 10 cs 0) else none

def readInt? : List Char → Option Int
  | '-' :: cs => (readNat? cs).map fun n => -(n : Int)
  | '+' :: cs => (readNat? cs).map fun n => (n : Int)
  | cs => (readNat? cs).map fun n => (n : Int)

/-- A signed 64-bit integer: an optional sign and digits, within the word's range. -/
def readInt64? (s : String) : Option Int64 := (readInt? s.toList).bind toInt64?

/-- An unsigned 64-bit integer: an optional plus sign and digits, below `2 ^ 64`. -/
def readUInt64? (s : String) : Option Nat :=
  let digits := match s.toList with
    | '+' :: cs => cs
    | cs => cs
  (readNat? digits).filter (· < UInt64.size)

end TenantGate.Number
