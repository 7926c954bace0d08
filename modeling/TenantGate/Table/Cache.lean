import TenantGate.Table.Basic
/-!
# Table cache

Tables read from the catalog are kept for a fixed lifetime. A look-up at an instant answers with
the entry of a name if it has not expired, and drops it if it has. Looking up is made of two
steps, a reading and a removal under a condition, between which another user of the cache may act.
-/

namespace TenantGate

/-- A point on a clock that never goes back, in nanoseconds. -/
abbrev Instant := Int

namespace Instant

def perSecond : Nat := 1000000000

/-- The clock counts its seconds in a signed 64-bit word. -/
def isRepresentable (t : Instant) : Bool := t / perSecond ≤ Int64.maxValue.toInt

/-- The instant a number of nanoseconds later, if the clock can show it. -/
def add? (t : Instant) (span : Nat) : Option Instant :=
  let later : Instant := t + span
  if isRepresentable later then some later else none

end Instant

/-- A table in the cache and the instant from which it no longer counts. -/
structure CachedTable where
  table : Table
  expires : Instant
  deriving DecidableEq

/-- Tables by name, with the lifetime in nanoseconds that new entries get. -/
structure TableCache where
  lifetime : Nat
  entries : Dict CachedTable := .empty
  deriving DecidableEq

namespace TableCache

def defaultLifetime : Nat := 300 * Instant.perSecond

/-- The entry of a name, expired or not. -/
def entry? (c : TableCache) (name : String) : Option CachedTable := c.entries.get? name

/-- Drop the entry of a name if it has expired by `now`. -/
def dropExpired (c : TableCache) (name : String) (now : Instant) : TableCache :=
  match c.entry? name with
  | some e => if e.expires ≤ now then { c with entries := c.entries.erase name } else c
  | none => c

/-- The table of a name that has not expired by `now`, and the cache without it if it has. -/
def lookup (c : TableCache) (name : String) (now : Instant) : Option Table × TableCache :=
  match c.entry? name with
  | none => (none, c)
  | some e => if now < e.expires then (some e.table, c) else (none, c.dropExpired name now)

/-- Keep a table from `now` on; none if the end of its lifetime is no instant of the clock. -/
def insert? (c : TableCache) (name : String) (t : Table) (now : Instant) : Option TableCache :=
  (now.add? c.lifetime).map fun expires =>
    { c with entries := c.entries.insert name ⟨t, expires⟩ }

def forget (c : TableCache) (name : String) : TableCache :=
  { c with entries := c.entries.erase name }

def clear (c : TableCache) : TableCache := { c with entries := .empty }

/-- The number of entries, expired ones among them. -/
def size (c : TableCache) : Nat := c.entries.size

end TableCache
end TenantGate
