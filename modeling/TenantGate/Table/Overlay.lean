import TenantGate.Text.Split
import TenantGate.Table.Basic
/-!
# Table overlays

An overlay says about a table what the catalog does not, or says it differently. It is written as
a text of lines `key=value`. `Overlay.parse` never fails: a line that says nothing is passed over.
-/

namespace TenantGate

/-- What an overlay says; whatever it leaves out comes from the catalog. -/
structure Overlay where
  primaryKey : Option String := none
  timestamps : Option Bool := none
  writable : List String := []
  columns : List String := []
  aliases : Dict String := .empty
  kinds : Dict Kind := .empty
  deriving DecidableEq

namespace Overlay

open Text

/-- The items of a comma list of the form `name:value`, both parts trimmed and not empty. -/
def pairs (s : String) : List (String × String) :=
  (commaList s).filterMap fun item => do
    let (k, v) ← splitOnce ':' item
    let (k, v) := (trim k, trim v)
    if k = "" ∨ v = "" then none else some (k, v)

def affirmations : List String := ["1", "true", "yes", "y"]

/-- Add what one setting says; a key that is not known says nothing. -/
def set (o : Overlay) (key value : String) : Overlay :=
  match lower key with
  | "primary_key" | "pk" => if value = "" then o else { o with primaryKey := some value }
  | "timestamps" => { o with timestamps := some (affirmations.contains (lower value)) }
  | "fillable" => { o with writable := commaList value }
  | "columns" => { o with columns := commaList value }
  | "aliases" => { o with aliases := o.aliases.insertMany (pairs value) }
  | "casts" =>
    { o with
      kinds := o.kinds.insertMany ((pairs value).filterMap fun (column, name) =>
        match Kind.parse name with
        | .ok kind => some (column, kind)
        | .error _ => none) }
  | _ => o

/-- Whether a trimmed line is empty or a comment. -/
def isSkipped (line : String) : Bool :=
  match line.toList with
  | [] => true
  | '#' :: _ => true
  | '/' :: '/' :: _ => true
  | _ => false

def addLine (o : Overlay) (line : String) : Overlay :=
  let line := trim line
  if isSkipped line then o
  else
    match splitOnce '=' line with
    | some (key, value) => o.set (trim key) (trim value)
    | none => o

def parse (s : String) : Overlay := (lines s).foldl addLine {}

/-- Lay an overlay over a table. Lists and aliases replace those of the table, kinds are added to
them. -/
def layOn (o : Overlay) (t : Table) : Table :=
  { t with
    primaryKey := o.primaryKey.getD t.primaryKey
    columns := if o.columns.isEmpty then t.columns else o.columns
    writable := if o.writable.isEmpty then t.writable else o.writable
    aliases := if o.aliases.isEmpty then t.aliases else o.aliases
    kinds := t.kinds.insertMany o.kinds.entries
    timestamps := o.timestamps.getD t.timestamps }

end Overlay
end TenantGate
