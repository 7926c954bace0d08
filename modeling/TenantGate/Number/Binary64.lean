/-!
# Double-precision numbers

A double is its 64 bits. A finite one is `± mantissa * 2 ^ exponent` with natural numbers that are
read off the bits, so everything about it is decided in exact arithmetic: `ofRatio` rounds a
quotient of naturals to the nearest double, ties to the even mantissa, and `truncate` drops the
fraction of the exact value. A product or a quotient of two doubles is the exact one, rounded once;
`scale?` multiplies by a power of ten in such steps, so that its result is rounded more than once.
-/

namespace TenantGate

/-- An IEEE 754 double, given by its bits. -/
structure Binary64 where
  bits : UInt64
  deriving DecidableEq, Repr

namespace Binary64

/-! ### Taking a double apart -/

def isNegative (x : Binary64) : Bool := Nat.pow 2 63 ≤ x.bits.toNat

def exponentField (x : Binary64) : Nat := x.bits.toNat / Nat.pow 2 52 % Nat.pow 2 11

/-- The 52 bits of the fraction. -/
def fractionField (x : Binary64) : Nat := x.bits.toNat % Nat.pow 2 52

/-- Neither an infinity nor a NaN. -/
def isFinite (x : Binary64) : Bool := x.exponentField != 2047

/-- The integer mantissa of a finite double. -/
def mantissa (x : Binary64) : Nat :=
  if x.exponentField = 0 then x.fractionField else Nat.pow 2 52 + x.fractionField

/-- The power of two that the mantissa is scaled by. -/
def exponent (x : Binary64) : Int :=
  if x.exponentField = 0 then -1074 else (x.exponentField : Int) - 1075

/-- The numerator of the exact magnitude. -/
def numerator (x : Binary64) : Nat := x.mantissa * Nat.pow 2 x.exponent.toNat

/-- The denominator of the exact magnitude. -/
def denominator (x : Binary64) : Nat := Nat.pow 2 (-x.exponent).toNat

def truncate (x : Binary64) : Int :=
  let n : Nat := x.numerator / x.denominator
  if x.isNegative then -(n : Int) else n

/-! ### Order -/

/-- The numerator of the exact value, with its sign. -/
def signedNumerator (x : Binary64) : Int :=
  if x.isNegative then -(x.numerator : Int) else x.numerator

/-- The order of finite doubles is that of their exact values. -/
def le (x y : Binary64) : Bool :=
  x.signedNumerator * y.denominator ≤ y.signedNumerator * x.denominator

@[inherit_doc le]
def lt (x y : Binary64) : Bool :=
  x.signedNumerator * y.denominator < y.signedNumerator * x.denominator

/-! ### Rounding a quotient -/

/-- The integer nearest to `num / den`, ties to the even one. -/
def roundHalfEven (num den : Nat) : Nat :=
  let q := num / den
  let r := num % den
  if 2 * r < den then q
  else if den < 2 * r then q + 1
  else q + q % 2

/-- The greatest `e` with `2 ^ e ≤ num / den`, for positive `num` and `den`. -/
def log2Ratio (num den : Nat) : Int :=
  let e : Int := (num.log2 : Int) - den.log2
  if num * Nat.pow 2 (-e).toNat < den * Nat.pow 2 e.toNat then e - 1 else e

/-- Round `num / den` to a multiple of a power of two that leaves `digits` binary digits, the power
being at least `least`: the mantissa and the power. -/
def roundRatio (digits : Nat) (least : Int) (num den : Nat) : Nat × Int :=
  let e := max (log2Ratio num den - (digits - 1 : Int)) least
  (roundHalfEven (num * Nat.pow 2 (-e).toNat) (den * Nat.pow 2 e.toNat), e)

/-- Put a double together from its sign and the other 63 bits. -/
def ofParts (negative : Bool) (rest : Nat) : Binary64 :=
  ⟨UInt64.ofNat ((if negative then Nat.pow 2 63 else 0) + rest)⟩

/-- The 63 bits of infinity. -/
def infinityBits : Nat := 2047 * Nat.pow 2 52

/-- The double nearest to `± num / den`; beyond the greatest one, infinity. -/
def ofRatio (negative : Bool) (num den : Nat) : Binary64 :=
  if num = 0 then ofParts negative 0
  else
    let (m, e) := roundRatio 53 (-1074) num den
    ofParts negative (min ((e + 1074).toNat * Nat.pow 2 52 + m) infinityBits)

def ofInt (i : Int) : Binary64 := ofRatio (i < 0) i.natAbs 1

/-! ### Products and quotients -/

def mul (x y : Binary64) : Binary64 :=
  ofRatio (x.isNegative != y.isNegative) (x.numerator * y.numerator) (x.denominator * y.denominator)

/-- The quotient by a `y` that is not zero. -/
def div (x y : Binary64) : Binary64 :=
  ofRatio (x.isNegative != y.isNegative) (x.numerator * y.denominator) (x.denominator * y.numerator)

/-! ### Scaling by a power of ten -/

/-- The greatest power of ten that is not beyond the greatest double. -/
def greatestTenPow : Nat := 308

/-- The double nearest to a power of ten. -/
def tenPow (n : Nat) : Binary64 := ofRatio false (Nat.pow 10 n) 1

/-- Divide by the greatest power of ten a number of times and then by `10 ^ rest`. What has become
zero stays as it is. -/
def divTenPow (x : Binary64) (rest : Nat) : (times : Nat) → Binary64
  | 0 => x.div (tenPow rest)
  | times + 1 =>
    if x.mantissa = 0 then x else (x.div (tenPow greatestTenPow)).divTenPow rest times

/-- The finite double `x` times `10 ^ e`, unless that is an infinity. Nothing but zero is multiplied
by more than the greatest power of ten. -/
def scale? (x : Binary64) (e : Int) : Option Binary64 :=
  let y :=
    if e < 0 then
      let n := e.natAbs - 1
      x.divTenPow (n % greatestTenPow + 1) (n / greatestTenPow)
    else if e ≤ greatestTenPow then x.mul (tenPow e.toNat)
    else if x.mantissa = 0 then x
    else ofParts x.isNegative infinityBits
  if y.isFinite then some y else none

/-! ### Single precision -/

/-- Round a finite double to single precision and take the result as a double again. -/
def toSingle (x : Binary64) : Binary64 :=
  if !x.isFinite || x.mantissa = 0 then x
  else
    let (m, e) := roundRatio 24 (-149) x.numerator x.denominator
    if e + 24 > 128 || (m = Nat.pow 2 24 && e + 24 = 128) then ofParts x.isNegative infinityBits
    else ofRatio x.isNegative (m * Nat.pow 2 e.toNat) (Nat.pow 2 (-e).toNat)

end Binary64
end TenantGate
