import TenantGate.Json.Document
import TenantGate.Number.Decimal
import TenantGate.Sql.Value
import TenantGate.Time.Reading
/-!
# Coercing JSON values to column kinds

`coerceTo` makes a JSON value one for a column of a kind. A JSON null, and a blank text where the
kind is not text or JSON, is no value of that kind. `coerce` goes by the kind if there is one and
otherwise takes the value by its shape.
-/

namespace TenantGate

open Sql

/-- What a failed coercion asked for. -/
inductive CoercionFailure where
  | notInteger
  | notNumber
  | notBoolean
  | notDatetime
  deriving DecidableEq, Repr

def CoercionFailure.message : CoercionFailure → String
  | notInteger => "must be an integer"
  | notNumber => "must be a number"
  | notBoolean => "must be a boolean"
  | notDatetime => "must be a datetime"

namespace Coercion

/-- Whether the integer part of a double fits the signed word. The greatest word has no double of
its own, and the one nearest to it is already too large. -/
def fitsWord (x : Binary64) : Bool :=
  x.isFinite && (Binary64.ofInt Number.int64Least).le x && x.lt (.ofInt Number.int64Greatest)

/-- The integer of a number: a signed word as it is, and of any other number the double without its
fraction, unless that does not fit the word. -/
def intOfNumber (n : JsonNumber) : Option Int64 :=
  match n.toInt64? with
  | some i => some i
  | none => if fitsWord n.toBinary64 then some (.ofInt n.toBinary64.truncate) else none

/-- Coerce to an integer: a number, or a decimal text. -/
def toInt : Json → Except CoercionFailure Value
  | .number n =>
    match intOfNumber n with
    | some i => .ok (.int i)
    | none => .error .notInteger
  | .string s =>
    let s := Text.trim s
    if s = "" then .ok (.null .int)
    else
      match Number.readInt64? s with
      | some i => .ok (.int i)
      | none => .error .notInteger
  | _ => .error .notInteger

/-- Coerce to a double: a number, or a text of a number that no infinity is nearest to. -/
def toFloat : Json → Except CoercionFailure Value
  | .number n => .ok (.float n.toBinary64)
  | .string s =>
    let s := Text.trim s
    if s = "" then .ok (.null .float)
    else
      match (Decimal.read? s).bind Decimal.toFinite? with
      | some x => .ok (.float x)
      | none => .error .notNumber
  | _ => .error .notNumber

/-- The words for true and false. -/
def trueWords : List String := ["1", "true", "yes", "y"]

@[inherit_doc trueWords]
def falseWords : List String := ["0", "false", "no", "n"]

/-- Coerce to a truth value: a boolean, or one of the words for it. -/
def toBool : Json → Except CoercionFailure Value
  | .bool b => .ok (.bool b)
  | .string s =>
    let w := Text.lower (Text.trim s)
    if w = "" then .ok (.null .bool)
    else if trueWords.contains w then .ok (.bool true)
    else if falseWords.contains w then .ok (.bool false)
    else .error .notBoolean
  | _ => .error .notBoolean

/-- Coerce to a point in time: a text in one of the accepted forms. -/
def toTimestamp : Json → Except CoercionFailure Value
  | .string s =>
    let s := Text.trim s
    if s = "" then .ok (.null .datetime)
    else
      match Timestamp.read? s with
      | some t => .ok (.timestamp t)
      | none => .error .notDatetime
  | _ => .error .notDatetime

/-- Coerce to a JSON document: a text that holds an object or an array is that document, any other
value is itself. -/
def toDocument : Json → Value
  | .string s =>
    match Json.read? (Text.trim s) with
    | some (.object fields) => .json (.object fields)
    | some (.array items) => .json (.array items)
    | _ => .json (.string s)
  | v => .json v

/-- Coerce to text: a text is itself, any other value its JSON text. -/
def toText : Json → Value
  | .string s => .text s
  | v => .text v.text

end Coercion

/-- Coerce a JSON value for a column of a kind. -/
def coerceTo (kind : Kind) (v : Json) : Except CoercionFailure Value :=
  if v.isNull then .ok (.null kind)
  else
    match kind with
    | .string => .ok (Coercion.toText v)
    | .int => Coercion.toInt v
    | .float => Coercion.toFloat v
    | .bool => Coercion.toBool v
    | .datetime => Coercion.toTimestamp v
    | .json => .ok (Coercion.toDocument v)

/-- Coerce to the kind given, or by shape without one. -/
def coerce (kind : Option Kind) (v : Json) : Except CoercionFailure Value :=
  match kind with
  | some k => coerceTo k v
  | none => .ok (.ofShape v)

end TenantGate
