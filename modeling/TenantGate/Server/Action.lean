import TenantGate.Server.Program
/-!
# Actions

An action is a conversation with the server that also uses the table cache and may fail. A failure
does not undo what was done to the cache before it.
-/

namespace TenantGate

open Server

/-- A conversation that uses the table cache and may fail; the cache stays as it is left. -/
abbrev Action (α : Type) := ExceptT Failure (StateT TableCache Program) α

namespace Action

variable {α : Type}

def ask (q : Request) : Action q.Reply := fun c =>
  (Program.request q).bind fun r => .done (.ok r, c)

/-- Continue with the value, or fail. -/
def ofExcept : Except Failure α → Action α
  | .ok a => pure a
  | .error e => throw e

/-- Continue with what the server gave, or fail as it did. -/
def ofReply : Except DatabaseFailure α → Action α
  | .ok a => pure a
  | .error f => throw (.database f)

def execute (s : Sql.Statement) : Action Result := do ofReply (← ask (.execute s))

end Action

end TenantGate
