import TenantGate.Query.Segment
/-!
# Reading query expressions

Each call of the chain is a step: `table`, `select` and `take` set a part of the expression, the
last of several being the one that counts, and `join`, `where` and `orderby` add to one. Only the
shape is checked here; what the names mean is settled when the expression is planned.
-/

namespace TenantGate.Query

/-- What one call does to an expression. -/
inductive Step where
  | table (base : NamedTable)
  | select (columns : List NamedColumn)
  | join (join : JoinClause)
  | where (condition : WhereClause)
  | orderBy (order : OrderClause)
  | take (limit : Int64)
  deriving DecidableEq

def Expression.apply (e : Expression) : Step → Expression
  | .table base => { e with base }
  | .select columns => { e with select := columns }
  | .join j => { e with joins := e.joins ++ [j] }
  | .where w => { e with wheres := e.wheres ++ [w] }
  | .orderBy o => { e with orderBy := e.orderBy ++ [o] }
  | .take n => { e with limit := some n }

/-! ### Arguments of the methods -/

/-- A value, or a failure of a method. -/
def demand {α : Type} (method : String) (reason : Reason) : Option α → Except Failure α
  | some a => .ok a
  | none => .error (.field method reason)

def readColumn (method : String) (part : QueryPart) (arg : Literal) : Except Failure NamedColumn :=
  demand method (.malformed part) (NamedColumn.read? arg.toText)

/-- `table('name as alias')` -/
def readTable : List Literal → Except Failure Step
  | [arg] => do return .table (← demand "table" .invalid (NamedTable.read? arg.toText))
  | _ => .error (.field "table" (.expectsArguments "1 argument"))

/-- `select('column', …)` -/
def readSelect (args : List Literal) : Except Failure Step :=
  if args.isEmpty then .error (.field "select" .empty)
  else do return .select (← args.mapM (readColumn "select" .column))

/-- `join('name alias', 'left', '=', 'right')` -/
def readJoin : List Literal → Except Failure Step
  | [target, left, op, right] => do
    let target ← demand "join" (.malformed .table) (NamedTable.read? target.toText)
    let left ← readColumn "join" .left left
    if Text.trim op.toText ≠ "=" then throw (.field "join" .onlyEquality)
    let right ← readColumn "join" .right right
    return .join ⟨target, left, right⟩
  | _ => .error (.field "join" (.expectsArguments "4 arguments"))

/-- `where('column', value)` or `where('column', 'operator', value)` -/
def readWhere : List Literal → Except Failure Step
  | [column, value] => do
    return .where ⟨← readColumn "where" .field column, .compare .equal, value⟩
  | [column, op, value] => do
    let op ← demand "where" .unsupportedOperator (Operator.read? op.toText)
    return .where ⟨← readColumn "where" .field column, op, value⟩
  | _ => .error (.field "where" (.expectsArguments "2 or 3 arguments"))

/-- `orderby('column', 'direction')` -/
def readOrder : List Literal → Except Failure Step
  | [column, direction] => do
    let column ← readColumn "orderby" .field column
    let direction ← demand "orderby" .orderDirection (Page.readDirection? direction.toText)
    return .orderBy ⟨column, direction⟩
  | _ => .error (.field "orderby" (.expectsArguments "2 arguments"))

/-- `take(n)` -/
def readTake : List Literal → Except Failure Step
  | [n] =>
    match n.toInt? with
    | some n => if 0 < n then .ok (.take n) else .error (.field "take" .invalid)
    | none => .error (.field "take" .invalid)
  | _ => .error (.field "take" (.expectsArguments "1 argument"))

/-! ### Expressions -/

/-- Read the step of a segment, of which `index` is the place in the chain. A blank segment is
none. -/
def readStep (index : Nat) (segment : List Char) : Except Failure (Option Step) :=
  let segment := Text.trimChars segment
  if segment.isEmpty then .ok none
  else
    match readCall segment with
    | none => .error (.field "query" (.invalidSegment index (String.ofList segment)))
    | some call =>
      some <$>
        match Text.lower call.method with
        | "table" => readTable call.args
        | "select" => readSelect call.args
        | "join" => readJoin call.args
        | "where" => readWhere call.args
        | "orderby" => readOrder call.args
        | "take" => readTake call.args
        | _ => .error (.field "query" (.unsupportedMethod index (String.ofList segment)))

/-- Read the steps of segments, the first of which has the place `index`. -/
def readSteps (index : Nat) : List (List Char) → Except Failure (List Step)
  | [] => .ok []
  | segment :: rest => do
    let step ← readStep index segment
    let steps ← readSteps (index + 1) rest
    return step.toList ++ steps

def Expression.read (s : String) : Except Failure Expression := do
  let cs := Text.trimChars s.toList
  if cs.isEmpty then throw (.field "query" .required)
  let steps ← readSteps 0 (segments cs)
  let e : Expression := steps.foldl Expression.apply {}
  if e.base.table = "" then throw (.field "table" .required)
  return e

/-- The limit of a query: the expression's own if it is positive and within the greatest one, and
otherwise the greatest one. -/
def limitWithin (limit : Option Int64) (greatest : Int64) : Int64 :=
  match limit with
  | some n => if 0 < n ∧ n ≤ greatest then n else greatest
  | none => greatest

end TenantGate.Query
