import TenantGate.Text.Split
import TenantGate.Text.Utf8
import TenantGate.Dict
/-!
# Request targets

A target is a path and, after a question mark, a query string; an absolute one has a scheme and an
authority before them. What follows a number sign does not belong to it. Percent signs encode bytes.
In a path the bytes must be UTF-8; in a query string a plus sign is a space, and bytes that are not
UTF-8 are replaced.
-/

namespace TenantGate.Http

open Text

def hexDigit? (c : Char) : Option Nat :=
  let n := c.toNat
  if 0x30 ≤ n ∧ n ≤ 0x39 then some (n - 0x30)
  else if 0x41 ≤ n ∧ n ≤ 0x46 then some (n - 0x41 + 10)
  else if 0x61 ≤ n ∧ n ≤ 0x66 then some (n - 0x61 + 10)
  else none

def hexByte? (a b : Char) : Option UInt8 := do
  return UInt8.ofNat ((← hexDigit? a) * 16 + (← hexDigit? b))

/-- The bytes of a text in which a percent sign and two digits stand for a byte; any other percent
sign stands for itself. -/
def percentBytes : List Char → List UInt8
  | [] => []
  | [c] => String.utf8EncodeChar c
  | [c, d] => String.utf8EncodeChar c ++ String.utf8EncodeChar d
  | c :: a :: b :: cs =>
    if c = '%' then
      match hexByte? a b with
      | some byte => byte :: percentBytes cs
      | none => String.utf8EncodeChar c ++ percentBytes (a :: b :: cs)
    else String.utf8EncodeChar c ++ percentBytes (a :: b :: cs)

/-- The text of a path part, if its bytes are UTF-8. -/
def decodePart? (part : String) : Option String := Utf8.decode? (percentBytes part.toList)

def decodeFormPart (cs : List Char) : String :=
  Utf8.decodeLossy (percentBytes (cs.map fun c => if c = '+' then ' ' else c))

def decodeForm (query : List Char) : List (String × String) :=
  ((splitChars '&' query).filter (!·.isEmpty)).map fun piece =>
    match splitOnceChars '=' piece with
    | some (name, value) => (decodeFormPart name, decodeFormPart value)
    | none => (decodeFormPart piece, "")

/-- A request target taken apart. -/
structure Target where
  path : List Char
  query : List Char
  deriving DecidableEq

namespace Target

def isSchemeChar (c : Char) : Bool := c.isAlphanum || "+-.".toList.contains c

/-- What follows the scheme and the authority of an absolute target; any other is left as it is. -/
def dropAuthority (cs : List Char) : List Char :=
  match cs.dropWhile isSchemeChar with
  | ':' :: '/' :: '/' :: r => r.dropWhile fun c => c ≠ '/' && c ≠ '?'
  | _ => cs

def read (s : String) : Target :=
  let cs := dropAuthority (s.toList.takeWhile (· ≠ '#'))
  match splitOnceChars '?' cs with
  | some (path, query) => ⟨path, query⟩
  | none => ⟨cs, []⟩

/-- The parts of the path between its slashes, still encoded. -/
def parts (t : Target) : List String := (splitChars '/' t.path).map String.ofList

/-- The parameters of the query string; the last of several with one name counts. -/
def parameters (t : Target) : Dict String := .ofList (decodeForm t.query)

end Target
end TenantGate.Http
