import TenantGate.Number.Numeral
/-!
# Socket addresses

An address is `a.b.c.d:port` or `[v6]:port`. A version 6 address is eight groups of hexadecimal
digits, of which one run of zero groups may be left out as `::` and the last two may be written in
the version 4 form; it is printed with the longest such run left out.
-/

namespace TenantGate

/-- An address to listen on. -/
inductive SocketAddress where
  | v4 (octets : List Nat) (port : Nat)
  | v6 (groups : List Nat) (scope : Nat) (port : Nat)
  deriving DecidableEq, Repr

namespace SocketAddress

/-! ### Reading -/

/-- The value of a digit in base 10 or 16. -/
def digit? (base : Nat) (c : Char) : Option Nat :=
  let n := c.toNat
  let value :=
    if 0x30 ≤ n ∧ n ≤ 0x39 then n - 0x30
    else if 0x41 ≤ n ∧ n ≤ 0x46 then n - 0x41 + 10
    else if 0x61 ≤ n ∧ n ≤ 0x66 then n - 0x61 + 10
    else base
  if value < base then some value else none

/-- The number that the digits at the beginning give, and how many there were. -/
def readDigits (base : Nat) (value count : Nat) : List Char → Nat × Nat × List Char
  | [] => (value, count, [])
  | c :: cs =>
    match digit? base c with
    | some d => readDigits base (value * base + d) (count + 1) cs
    | none => (value, count, c :: cs)

def expect (c : Char) : List Char → Option (List Char)
  | [] => none
  | d :: r => if d = c then some r else none

/-- An octet: up to three digits, without a leading zero. -/
def readOctet (cs : List Char) : Option (Nat × List Char) :=
  let (n, count, r) := readDigits 10 0 0 cs
  if count = 0 ∨ 3 < count ∨ 255 < n ∨ (cs.head? = some '0' ∧ 1 < count) then none else some (n, r)

def readV4 (cs : List Char) : Option (List Nat × List Char) := do
  let (a, r) ← readOctet cs
  let r ← expect '.' r
  let (b, r) ← readOctet r
  let r ← expect '.' r
  let (c, r) ← readOctet r
  let r ← expect '.' r
  let (d, r) ← readOctet r
  return ([a, b, c, d], r)

/-- A group: up to four hexadecimal digits. -/
def readGroup (cs : List Char) : Option (Nat × List Char) :=
  let (n, count, r) := readDigits 16 0 0 cs
  if count = 0 ∨ 4 < count then none else some (n, r)

/-- Up to `room` groups with colons between them, of which the last two may be four octets; whether
they were. The first group stands without a colon before it. -/
def readGroups (first : Bool) : Nat → List Char → List Nat × Bool × List Char
  | 0, cs => ([], false, cs)
  | room + 1, cs =>
    match (if first then some cs else expect ':' cs) with
    | none => ([], false, cs)
    | some r =>
      match (if room = 0 then none else readV4 r) with
      | some ([a, b, c, d], t) => ([a * 256 + b, c * 256 + d], true, t)
      | _ =>
        match readGroup r with
        | none => ([], false, cs)
        | some (g, t) =>
          let (gs, embedded, u) := readGroups false room t
          (g :: gs, embedded, u)

/-- Eight groups, of which a run of zeros may be written `::`. -/
def readV6 (cs : List Char) : Option (List Nat × List Char) :=
  let (head, embedded, r) := readGroups true 8 cs
  if head.length = 8 then some (head, r)
  else if embedded then none
  else do
    let r ← expect ':' r
    let r ← expect ':' r
    let (tail, _, r) := readGroups true (7 - head.length) r
    return (head ++ List.replicate (8 - head.length - tail.length) 0 ++ tail, r)

/-- A zone after a percent sign, zero without one. -/
def readScope : List Char → Nat × List Char
  | '%' :: cs =>
    let (n, count, r) := readDigits 10 0 0 cs
    if count = 0 ∨ UInt32.size ≤ n then (0, '%' :: cs) else (n, r)
  | cs => (0, cs)

/-- A port after a colon, to the end of the text. -/
def readPort (cs : List Char) : Option Nat := do
  let r ← expect ':' cs
  let (n, count, r) := readDigits 10 0 0 r
  if count = 0 ∨ 65535 < n ∨ !r.isEmpty then none else some n

def read? (s : String) : Option SocketAddress :=
  let cs := s.toList
  match readV4 cs with
  | some (octets, r) => (readPort r).map (.v4 octets)
  | none => do
    let r ← expect '[' cs
    let (groups, r) ← readV6 r
    let (scope, r) := readScope r
    let r ← expect ']' r
    let port ← readPort r
    return .v6 groups scope port

/-! ### Writing -/

/-- A number in hexadecimal, in lower case. -/
def hexText (n : Nat) : String := String.ofList (Nat.toDigits 16 n)

def v4Text (octets : List Nat) : String := ".".intercalate (octets.map Number.natText)

/-- The length of the run of zeros at the beginning. -/
def zerosAhead (groups : List Nat) : Nat := (groups.takeWhile (· = 0)).length

/-- The first of the longest runs of zeros: where it begins and how long it is. -/
def longestZeros (groups : List Nat) : Nat × Nat :=
  (List.range groups.length).foldl
    (fun best i =>
      let n := zerosAhead (groups.drop i)
      if best.2 < n then (i, n) else best) (0, 0)

def groupsText (groups : List Nat) : String := ":".intercalate (groups.map hexText)

/-- A version 6 address in its canonical form. -/
def v6Text (groups : List Nat) : String :=
  match groups with
  | [0, 0, 0, 0, 0, 0xFFFF, a, b] =>
    "::ffff:" ++ v4Text [a / 256, a % 256, b / 256, b % 256]
  | _ =>
    let (start, length) := longestZeros groups
    if length < 2 then groupsText groups
    else groupsText (groups.take start) ++ "::" ++ groupsText (groups.drop (start + length))

/-- The canonical text of an address. -/
def text : SocketAddress → String
  | v4 octets port => v4Text octets ++ ":" ++ Number.natText port
  | v6 groups scope port =>
    "[" ++ v6Text groups ++ (if scope = 0 then "" else "%" ++ Number.natText scope) ++ "]:"
      ++ Number.natText port

end SocketAddress
end TenantGate
