import TenantGate.Json.Document
/-!
# Fixed layouts in JSON

A value with named members may be written as an object, or as an array of the members in their
order. In an object unknown members are passed over and a known one may not be repeated; an array
may end early but not have more items than there are members.
-/

namespace TenantGate.Document

/-- The documents of the members named, where they are given. -/
def members? (names : List String) : Document → Option (List (Option Document))
  | .array items =>
    if items.length ≤ names.length then some ((List.range names.length).map (items[·]?)) else none
  | .object fields => do
    let keyed ← fields.mapM fun (k, d) => k.map fun k => (k, d)
    names.mapM fun n =>
      match keyed.filter (·.1 = n) with
      | [] => some none
      | [(_, d)] => some (some d)
      | _ => none
  | _ => none

/-- A member that takes `null` as if it were not given. -/
def optional {α : Type} (read : Document → Option α) : Option Document → Option (Option α)
  | none | some .null => some none
  | some d => (read d).map some

/-- A member with a value for when it is not given; it does not take `null`. -/
def withDefault {α : Type} (default : α) (read : Document → Option α) : Option Document → Option α
  | none => some default
  | some d => read d

def toString? : Document → Option String
  | .string s => s
  | _ => none

def toBool? : Document → Option Bool
  | .bool b => some b
  | _ => none

/-- An integer within the signed 64-bit word. -/
def toInt64? : Document → Option Int64
  | .number n => n.bind JsonNumber.toInt64?
  | _ => none

def toList? {α : Type} (read : Document → Option α) : Document → Option (List α)
  | .array items => items.mapM read
  | _ => none

/-- An object of any members, with at most `depth` containers inside one another. -/
def toDict? (depth : Nat) (d : Document) : Option (Dict Json) :=
  match d.toJson? depth with
  | some (.object fields) => some (.ofList fields)
  | _ => none

end TenantGate.Document
