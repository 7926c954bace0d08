import TenantGate.Server.Cell
import TenantGate.Sql.Text
import TenantGate.Table.Cache
/-!
# Conversations with the server

A `Program` is a conversation as data: it is done, or it makes a request and goes on according to
the reply. Whatever is not settled by the program itself is asked for in this way, the time
included, so that a statement about a program holds for every server and every clock. A `Script`
is one server, with a catalog and a list of replies; `Program.run` plays a program against it and
keeps what was sent.
-/

namespace TenantGate.Server

/-- What a program may ask for. -/
inductive Request where
  | begin
  | commit
  | rollback
  /-- The catalog's column list of a table. -/
  | columns (schema table : String)
  /-- The first column of a table's primary key in the catalog. -/
  | primaryKey (schema table : String)
  | execute (statement : Sql.Statement)
  /-- The point in time for measuring lifetimes. -/
  | instant
  /-- The time of day. -/
  | now
  deriving DecidableEq

namespace Request

def Reply : Request → Type
  | .begin | .commit | .rollback => Except DatabaseFailure Unit
  | .columns .. => Except DatabaseFailure (List CatalogRow)
  | .primaryKey .. => Except DatabaseFailure (Option (Option String))
  | .execute _ => Except DatabaseFailure Result
  | .instant => Instant
  | .now => Timestamp

/-- Whether a request goes to the server; the time does not come from there. -/
def isSent : Request → Bool
  | .instant | .now => false
  | _ => true

end Request

/-- A conversation that ends in an `α`. -/
inductive Program (α : Type) where
  | done (a : α)
  | ask (q : Request) (next : q.Reply → Program α)

namespace Program

variable {α β : Type}

def bind : Program α → (α → Program β) → Program β
  | done a, f => f a
  | ask q next, f => ask q fun r => (next r).bind f

instance : Monad Program where
  pure := done
  bind := bind

def request (q : Request) : Program q.Reply := ask q done

theorem bind_assoc {γ : Type} (p : Program α) (f : α → Program β) (g : β → Program γ) :
    (p.bind f).bind g = p.bind fun a => (f a).bind g := by
  induction p with
  | done a => rfl
  | ask q next ih => simp only [bind, ih]

theorem bind_done (p : Program α) : p.bind done = p := by
  induction p with
  | done a => rfl
  | ask q next ih => simp only [bind, ih]

instance : LawfulMonad Program :=
  LawfulMonad.mk' Program bind_done (fun _ _ => rfl) bind_assoc

end Program

/-! ### Scripted servers -/

/-- A table in the catalog: its columns and its key, or a failure to read them. -/
abbrev CatalogEntry := Except DatabaseFailure (List CatalogRow × Option String)

/-- A server with a catalog and the replies it has left; the times are fixed. -/
structure Script where
  catalog : String → String → CatalogEntry
  replies : List (Except DatabaseFailure Result)
  /-- Whether the server can be reached. -/
  reachable : Bool := true
  instant : Instant := 0
  now : Timestamp := ⟨0, 0, 0⟩

namespace Script

/-- The reply to a request and the server after it. Past the end of its replies a server answers
every statement with an empty result. -/
def reply (s : Script) : (q : Request) → q.Reply × Script
  | .begin | .commit | .rollback =>
    (if s.reachable then .ok () else .error .unreachable, s)
  | .columns schema table =>
    (if s.reachable then (s.catalog schema table).map (·.1) else .error .unreachable, s)
  | .primaryKey schema table =>
    (if s.reachable then (s.catalog schema table).map fun (_, key) => key.map some
      else .error .unreachable, s)
  | .execute _ =>
    if !s.reachable then (.error .unreachable, s)
    else
      match s.replies with
      | [] => (.ok {}, s)
      | r :: rest => (r, { s with replies := rest })
  | .instant => (s.instant, s)
  | .now => (s.now, s)

end Script

/-- Play a program against a server: its result, what reached the server, and the server after it.
-/
def Program.run {α : Type} (s : Script) : Program α → α × List Request × Script
  | done a => (a, [], s)
  | ask q next =>
    let (r, s') := s.reply q
    let (a, sent, s'') := (next r).run s'
    (a, if q.isSent && s.reachable then q :: sent else sent, s'')

end TenantGate.Server
