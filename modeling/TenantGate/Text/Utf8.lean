/-!
# Reading UTF-8

A byte sequence is cut into characters and ill-formed pieces. A piece is as long as it could still
have been the beginning of a character, so a lenient reader that writes one replacement character
for each piece agrees with the practice the Unicode standard recommends.
-/

namespace TenantGate.Text.Utf8

/-- A lead byte's promise: how many bytes follow, the bounds of the first of them, and the bits
that the lead byte itself carries. -/
structure Lead where
  follow : Nat
  least : Nat
  greatest : Nat
  bits : Nat

/-- What a lead byte promises; `none` for a byte that no character starts with. -/
def lead? (b : Nat) : Option Lead :=
  if b < 0x80 then some ⟨0, 0x80, 0xBF, b⟩
  else if b < 0xC2 then none
  else if b < 0xE0 then some ⟨1, 0x80, 0xBF, b - 0xC0⟩
  else if b = 0xE0 then some ⟨2, 0xA0, 0xBF, 0⟩
  else if b = 0xED then some ⟨2, 0x80, 0x9F, 0xD⟩
  else if b < 0xF0 then some ⟨2, 0x80, 0xBF, b - 0xE0⟩
  else if b = 0xF0 then some ⟨3, 0x90, 0xBF, 0⟩
  else if b < 0xF4 then some ⟨3, 0x80, 0xBF, b - 0xF0⟩
  else if b = 0xF4 then some ⟨3, 0x80, 0x8F, 4⟩
  else none

/-- Where a reader stands: between characters, or inside one that still owes `follow + 1` bytes,
the next of them between `least` and `greatest`. -/
inductive State where
  | between
  | inside (follow least greatest bits : Nat)

/-- The state after a lead byte's promise, and the character it makes on its own. -/
def start (b : Nat) : State × List (Option Char) :=
  match lead? b with
  | none => (.between, [none])
  | some ⟨0, _, _, bits⟩ => (.between, [some (Char.ofNat bits)])
  | some ⟨n + 1, lo, hi, bits⟩ => (.inside n lo hi bits, [])

/-- One byte: the next state, and what it completes; `none` is an ill-formed piece. -/
def step : State → Nat → State × List (Option Char)
  | .between, b => start b
  | .inside n lo hi bits, b =>
    if lo ≤ b ∧ b ≤ hi then
      let bits := bits * 64 + b % 64
      match n with
      | 0 => (.between, [some (Char.ofNat bits)])
      | n + 1 => (.inside n 0x80 0xBF bits, [])
    else
      let (s, out) := start b
      (s, none :: out)

def readFrom : State → List UInt8 → List (Option Char)
  | .between, [] => []
  | .inside .., [] => [none]
  | s, b :: bs =>
    let (s', out) := step s b.toNat
    out ++ readFrom s' bs

/-- The characters of a byte sequence, with `none` for each ill-formed piece. -/
def read (bytes : List UInt8) : List (Option Char) := readFrom .between bytes

def decode? (bytes : List UInt8) : Option String := ((read bytes).mapM id).map String.ofList

/-- The text of a sequence, with U+FFFD for each ill-formed piece. -/
def decodeLossy (bytes : List UInt8) : String :=
  String.ofList ((read bytes).map (·.getD (Char.ofNat 0xFFFD)))

end TenantGate.Text.Utf8
