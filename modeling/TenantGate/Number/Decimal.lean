import TenantGate.Number.Numeral
import TenantGate.Number.Binary64
/-!
# Decimal fractions

A `Decimal` is `± coefficient * 10 ^ exponent`. It is what a numeral with a point and an exponent
denotes, and what a double is written with: `Binary64.shortest` gives the fewest digits from which
`Decimal.toBinary64` finds the double again, and of those the nearest to it.
-/

namespace TenantGate

/-- The number `± coefficient * 10 ^ exponent`. -/
structure Decimal where
  negative : Bool
  coefficient : Nat
  exponent : Int
  deriving DecidableEq, Repr

namespace Decimal

/-- The nearest double. An exponent so large or small that the result is an infinity or a zero
whatever the digits are is settled before any power is computed. -/
def toBinary64 (d : Decimal) : Binary64 :=
  let magnitude := (Number.natChars d.coefficient).length + d.exponent
  if d.coefficient = 0 then .ofParts d.negative 0
  else if magnitude > 310 then .ofParts d.negative Binary64.infinityBits
  else if magnitude < -330 then .ofParts d.negative 0
  else .ofRatio d.negative (d.coefficient * Nat.pow 10 d.exponent.toNat)
      (Nat.pow 10 (-d.exponent).toNat)

/-- The nearest double, unless that is an infinity. -/
def toFinite? (d : Decimal) : Option Binary64 :=
  let x := d.toBinary64
  if x.isFinite then some x else none

/-! ### Reading -/

def readSign : List Char → Bool × List Char
  | '-' :: cs => (true, cs)
  | '+' :: cs => (false, cs)
  | cs => (false, cs)

/-- The exponent part of a numeral: nothing, or `e` and a signed whole number. -/
def readExponent? : List Char → Option Int
  | [] => some 0
  | c :: cs => if c = 'e' ∨ c = 'E' then Number.readInt? cs else none

/-- A numeral: an optional sign, digits with at most one point among or around them, and an
optional exponent. At least one digit stands before the exponent. -/
def read? (s : String) : Option Decimal :=
  let (negative, cs) := readSign s.toList
  let whole := cs.takeWhile Char.isDigit
  let rest := cs.dropWhile Char.isDigit
  let (places, rest) := match rest with
    | '.' :: r => (r.takeWhile Char.isDigit, r.dropWhile Char.isDigit)
    | r => ([], r)
  if whole.isEmpty && places.isEmpty then none
  else (readExponent? rest).map fun e =>
    ⟨negative, Nat.ofDigitChars 10 (whole ++ places) 0, e - places.length⟩

end Decimal

/-! ### The shortest decimal of a double -/

namespace Binary64

/-- The greatest `e` with `10 ^ e ≤ num / den`, for positive `num` and `den`. -/
def log10Ratio (num den : Nat) : Int :=
  let e : Int := ((Number.natChars num).length : Int) - (Number.natChars den).length
  if num * Nat.pow 10 (-e).toNat < den * Nat.pow 10 e.toNat then e - 1 else e

/-- The magnitude of `x`. -/
def abs (x : Binary64) : Binary64 := ofParts false (x.bits.toNat % Nat.pow 2 63)

/-- Whether reading `c * 10 ^ t` gives the positive double `x`. -/
def readsBack (x : Binary64) (c : Nat) (t : Int) : Bool :=
  (Decimal.mk false c t).toBinary64 == x

/-- The neighbour of the positive double `x` on the grid of multiples of `10 ^ t` that reads back
as `x`; if both do, the nearer one, and of two equally near the even one. -/
def onGrid? (x : Binary64) (t : Int) : Option Nat :=
  let num := x.numerator * Nat.pow 10 (-t).toNat
  let den := x.denominator * Nat.pow 10 t.toNat
  let low := num / den
  let nearest := roundHalfEven num den
  let other := if nearest = low then low + 1 else low
  if readsBack x nearest t then some nearest
  else if readsBack x other t then some other
  else none

/-- Remove the trailing zeros of a coefficient; `places` bounds how many there can be. -/
def stripZeros (places : Nat) (c : Nat) (t : Int) : Nat × Int :=
  match places with
  | 0 => (c, t)
  | n + 1 => if c % 10 = 0 then stripZeros n (c / 10) (t + 1) else (c, t)

/-- The shortest decimal that reads back as the finite double `x`. Seventeen digits always do. -/
def shortest (x : Binary64) : Decimal :=
  if x.mantissa = 0 then ⟨x.isNegative, 0, 0⟩
  else
    let a := x.abs
    let top := log10Ratio a.numerator a.denominator
    let found := (List.range 17).findSome? fun (k : Nat) =>
      let t : Int := top - k
      (onGrid? a t).map fun c => (c, t)
    let (c, t) := found.getD (0, 0)
    let (c, t) := stripZeros 17 c t
    ⟨x.isNegative, c, t⟩

end Binary64
end TenantGate
