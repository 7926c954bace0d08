import TenantGate.Text.LetterCase
/-!
# Lower case

`lower` is the full lower-casing of Unicode without a language: each character by the table, the
dotted capital I to two characters, and a capital sigma at the end of a word to the final small
sigma.
-/

namespace TenantGate.Text

open LetterCase

/-- The lower case of one character; a capital sigma is taken as the ordinary small sigma. -/
def lowerChar (c : Char) : List Char :=
  let n := c.toNat
  if n < 0x80 then
    if 0x41 ≤ n && n ≤ 0x5A then [Char.ofNat (n + 32)] else [c]
  else if n = 0x130 then ['i', Char.ofNat 0x307]
  else
    match capitals.find? fun r => r.first ≤ n && n ≤ r.last && (n - r.first) % r.step == 0 with
    | some r => [Char.ofNat (n + r.shift).toNat]
    | none => [c]

/-- The nearest character that is not passed over is a cased one. -/
def meetsCased (cs : List Char) : Bool :=
  match cs.dropWhile isIgnorable with
  | [] => false
  | c :: _ => isCased c

/-- Lower-case the rest of a text; `before` holds what came before it, nearest first. -/
def lowerFrom (before : List Char) : List Char → List Char
  | [] => []
  | c :: cs =>
    let low :=
      if c = 'Σ' then (if meetsCased before && !meetsCased cs then ['ς'] else ['σ'])
      else lowerChar c
    low ++ lowerFrom (c :: before) cs

/-- `s` in lower case. -/
def lower (s : String) : String := String.ofList (lowerFrom [] s.toList)

end TenantGate.Text
