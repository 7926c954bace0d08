import TenantGate.Table.Source
import TenantGate.Proofs.Table.Cache
import TenantGate.Proofs.Table.Name
import TenantGate.Proofs.Outcome
import TenantGate.Proofs.Server.Postcondition
/-!
# The table cache does not show

Over a catalog that does not change, what a table is found to be does not depend on the cache. What
is found is said without a cache by `TableSource.findIn` and `TableSource.findReadableIn`, and a
cache that has served whatever came before holds only what the catalog gives
(`TableSource.IsCurrent`). So a used cache and a new one give the same:

    find_play : ((s.find raw c).play reply st).1.1 = s.findIn k raw

The two ways of finding a table differ where the catalog gives no key: `findReadableIn_cases`.
-/

namespace TenantGate

open Server TenantGate.Action

/-- A span can be added to an instant if the seconds of the sum are those of the clock. -/
theorem Instant.isSome_add?_iff {t : Instant} {span : Nat} :
    (t.add? span).isSome = true ↔ (t + span) / perSecond ≤ Int64.maxValue.toInt := by
  simp [add?, isRepresentable]

/-! ### Catalogs that do not change

The catalog is fixed, the server's state and its clock are not. Only that a lifetime ends within the
clock is asked of the clock, as a table could not be kept otherwise. -/

/-- What a catalog answers to its two reads, for each schema and table. -/
structure Server.Catalog where
  columns : String → String → Except DatabaseFailure (List CatalogRow)
  primaryKey : String → String → Except DatabaseFailure (Option (Option String))

/-- The reply to a read is that of the catalog. -/
def Server.Catalog.AnswersReads (k : Catalog) : Exchange → Prop
  | ⟨.columns schema name, reply⟩ => reply = k.columns schema name
  | ⟨.primaryKey schema name, reply⟩ => reply = k.primaryKey schema name
  | _ => True

/-- The reply is that of the catalog, or an instant from which a lifetime ends within the clock. -/
def Server.Catalog.Answers (k : Catalog) (lifetime : Nat) : Exchange → Prop
  | ⟨.columns schema name, reply⟩ => reply = k.columns schema name
  | ⟨.primaryKey schema name, reply⟩ => reply = k.primaryKey schema name
  | ⟨.instant, now⟩ => (Instant.add? now lifetime).isSome = true
  | _ => True

/-- In particular, reads are answered as the catalog does. -/
theorem Server.Catalog.Answers.reads {k : Catalog} {lifetime : Nat} {e : Exchange}
    (h : k.Answers lifetime e) : k.AnswersReads e := by
  obtain ⟨q, reply⟩ := e
  cases q with
  | columns schema name => exact h
  | primaryKey schema name => exact h
  | _ => trivial

/-- The server, whatever its state, answers reads as the catalog does and shows instants from which
a lifetime ends within the clock. -/
structure Server.Catalog.IsServed {σ : Type} (k : Catalog) (lifetime : Nat)
    (reply : (q : Request) → σ → q.Reply × σ) : Prop where
  columns : ∀ schema name st, (reply (.columns schema name) st).1 = k.columns schema name
  primaryKey : ∀ schema name st, (reply (.primaryKey schema name) st).1 = k.primaryKey schema name
  instant : ∀ st, (Instant.add? (reply .instant st).1 lifetime).isSome = true

/-- Each reply of such a server is one that is asked for. -/
theorem Server.Catalog.IsServed.answers {σ : Type} {k : Catalog} {lifetime : Nat}
    {reply : (q : Request) → σ → q.Reply × σ} (h : k.IsServed lifetime reply) (q : Request)
    (st : σ) : k.Answers lifetime ⟨q, (reply q st).1⟩ := by
  cases q with
  | columns schema name => exact h.columns schema name st
  | primaryKey schema name => exact h.primaryKey schema name st
  | instant => exact h.instant st
  | _ => trivial

/-- A server that answers reads as the catalog does, always at the first instant of its clock. -/
def Server.Catalog.reply (k : Catalog) : (q : Request) → Unit → q.Reply × Unit
  | .begin, st | .commit, st | .rollback, st => (.ok (), st)
  | .columns schema name, st => (k.columns schema name, st)
  | .primaryKey schema name, st => (k.primaryKey schema name, st)
  | .execute _, st => (.ok {}, st)
  | .instant, st => ((0 : Int), st)
  | .now, st => (⟨0, 0, 0⟩, st)

theorem Server.Catalog.isServed_reply (k : Catalog) {lifetime : Nat}
    (h : (Instant.add? 0 lifetime).isSome = true) : k.IsServed lifetime k.reply :=
  ⟨fun _ _ _ => rfl, fun _ _ _ => rfl, fun _ => h⟩

namespace TableSource

/-! ### Finding a table without a cache

The finders without the cache and without a server: the same steps over a catalog that is a value.
-/

/-- The columns that the catalog lists, or the failure to list them. -/
def columnsIn (s : TableSource) (k : Catalog) (name : String) :
    Except Failure (List ListedColumn) := do
  readColumns (← (k.columns s.schema name).mapError .database)

/-- The key that the catalog names, trimmed; none if it names none or blanks. -/
def primaryKeyIn (s : TableSource) (k : Catalog) (name : String) :
    Except Failure (Option String) := do
  match ← (k.primaryKey s.schema name).mapError .database with
  | none => return none
  | some key => do
    let key := Text.trim (← present "column_name" key)
    return if key = "" then none else some key

/-- The table of the catalog: it needs columns, and then a key. -/
def readIn (s : TableSource) (k : Catalog) (name : String) : Except Failure Table := do
  let columns ← s.columnsIn k name
  if columns.isEmpty then .error (.field "table" .notFound)
  else Table.ofCatalog s.schema name columns (← s.primaryKeyIn k name)

/-- A table with its overlay. -/
def findIn (s : TableSource) (k : Catalog) (raw : String) : Except Failure Table := do
  let name ← Table.readName raw
  return s.overlaid name (← s.readIn k name)

/-- The table of the catalog for reading alone: the key is asked for first, and without one the
columns are enough. -/
def readReadableIn (s : TableSource) (k : Catalog) (name : String) : Except Failure Table := do
  match ← s.primaryKeyIn k name with
  | some _ => s.readIn k name
  | none => Table.ofColumns s.schema name (← s.columnsIn k name) ""

/-- A table for reading alone, with its overlay. -/
def findReadableIn (s : TableSource) (k : Catalog) (raw : String) : Except Failure Table := do
  let name ← Table.readName raw
  return s.overlaid name (← s.readReadableIn k name)

variable {s : TableSource} {k : Catalog} {lifetime : Nat} {name raw : String}

/-! ### Caches that hold what the catalog gives

The invariant of the whole development: whatever is in the cache could be read again. It does not
depend on instants, so it does not matter when an entry expires. -/

/-- Every table in the cache is what the catalog gives under its name. -/
structure IsCurrent (s : TableSource) (k : Catalog) (lifetime : Nat) (c : TableCache) : Prop where
  lifetime : c.lifetime = lifetime
  entry : ∀ name e, c.entry? name = some e → s.readIn k name = .ok e.table

theorem isCurrent_new : s.IsCurrent k lifetime { lifetime } := ⟨rfl, by rintro name e ⟨⟩⟩

variable {c : TableCache}

/-- Being current is a property of the tables in the cache. -/
theorem IsCurrent.holds (h : s.IsCurrent k lifetime c) :
    c.Holds fun name t => s.readIn k name = .ok t := h.entry

/-- A cache with fewer entries is still current. -/
theorem IsCurrent.forget (h : s.IsCurrent k lifetime c) (name : String) :
    s.IsCurrent k lifetime (c.forget name) := ⟨h.lifetime, h.holds.forget name⟩

theorem IsCurrent.clear (h : s.IsCurrent k lifetime c) : s.IsCurrent k lifetime c.clear :=
  ⟨h.lifetime, by rintro name e ⟨⟩⟩

/-- A look-up gives what the catalog gives, if anything, and at most drops an entry. -/
theorem IsCurrent.lookup (h : s.IsCurrent k lifetime c) (name : String) (now : Instant) :
    (∀ t, (c.lookup name now).1 = some t → s.readIn k name = .ok t) ∧
      s.IsCurrent k lifetime (c.lookup name now).2 := by
  obtain ⟨hfound, hrest⟩ := h.holds.lookup name now
  exact ⟨hfound, (c.lifetime_lookup name now).trans h.lifetime, hrest⟩

/-- What the catalog gives may be kept. -/
theorem IsCurrent.insert {c' : TableCache} {t : Table} {now : Instant}
    (h : s.IsCurrent k lifetime c) (ht : s.readIn k name = .ok t)
    (hinsert : c.insert? name t now = some c') : s.IsCurrent k lifetime c' :=
  ⟨(TableCache.lifetime_insert hinsert).trans h.lifetime, h.holds.insert ht hinsert⟩

/-! ### Reading the catalog

The actions that read, against their counterparts without a server. -/

section Reading

variable {A : Exchange → Prop} {I : TableCache → Prop} (hA : ∀ e, A e → k.AnswersReads e)

include hA

/-- The columns are read as the catalog lists them. -/
theorem ensures_columns : (s.columns name).Ensures A I (· = s.columnsIn k name) := by
  refine (ensures_ask (.columns s.schema name)).bind_ok ?_
  intro reply hreply
  obtain rfl : reply = k.columns s.schema name := hA _ hreply
  exact (ensures_ofReply _).bind_eq fun rows _ => ensures_ofExcept (readColumns rows)

/-- The key is read as the catalog names it. -/
theorem ensures_primaryKey : (s.primaryKey name).Ensures A I (· = s.primaryKeyIn k name) := by
  refine (ensures_ask (.primaryKey s.schema name)).bind_ok ?_
  intro reply hreply
  obtain rfl : reply = k.primaryKey s.schema name := hA _ hreply
  refine (ensures_ofReply _).bind_eq ?_
  intro key _
  cases key with
  | none => exact ensures_pure rfl
  | some key => exact (ensures_ofExcept (present "column_name" key)).bind_eq fun key _ =>
      ensures_pure rfl

/-- Where reads are answered as the catalog does, a table is read as the catalog gives it, whatever
the cache holds. -/
theorem ensures_readCatalog : (s.readCatalog name).Ensures A I (· = s.readIn k name) := by
  refine (ensures_columns hA).bind_eq ?_
  intro columns _
  cases columns with
  | nil => exact (ensures_throw (Q := (· = .error (.field "table" .notFound))) rfl).bind_error
  | cons column columns =>
    exact (ensures_primaryKey hA).bind_eq fun key _ => ensures_ofExcept _

end Reading

/-! ### Through the cache

The finders, against their counterparts without a cache. A table in the cache is what the catalog
would give, so it does not matter which of the two is taken. -/

/-- On every run over the catalog the action gives this result and keeps the cache current. -/
abbrev Gives {α : Type} (s : TableSource) (k : Catalog) (lifetime : Nat) (x : Action α)
    (r : Except Failure α) : Prop :=
  x.Ensures (k.Answers lifetime) (s.IsCurrent k lifetime) (· = r)

/-- What is found in the cache is what the catalog gives. -/
theorem ensures_cached? : (cached? name).Ensures (k.Answers lifetime) (s.IsCurrent k lifetime)
    fun r => ∃ found, r = .ok found ∧ ∀ t, found = some t → s.readIn k name = .ok t :=
  (ensures_ask .instant).bind_ok fun now _ => ensures_modifyGet fun _ hc => hc.lookup name now

/-- What the catalog gives is kept. -/
theorem ensures_keep {t : Table} (ht : s.readIn k name = .ok t) :
    (keep name t).Ensures (k.Answers lifetime) (s.IsCurrent k lifetime)
      fun r => ∃ a, r = .ok a ∧ True := by
  refine (ensures_ask .instant).bind_ok ?_
  intro now hnow
  refine (ensures_modifyGet (g := fun c => (c, c)) fun c hc => ⟨hc, hc⟩).bind_ok ?_
  intro c hc
  cases hinsert : c.insert? name t now with
  | none =>
    -- the lifetime of the new entry ends within the clock
    have hends : (Instant.add? now c.lifetime).isSome = true := hc.lifetime ▸ hnow
    rw [Option.map_eq_none_iff.1 hinsert] at hends
    cases hends
  | some c' =>
    exact ensures_modifyGet (g := fun _ => ((), c')) fun _ _ => ⟨trivial, hc.insert ht hinsert⟩

/-- A table is read as the catalog gives it, and kept. -/
theorem gives_catalogTable : s.Gives k lifetime (s.catalogTable name) (s.readIn k name) := by
  refine ensures_cached?.bind_ok ?_
  intro found hfound
  cases found with
  | some t => exact ensures_pure (hfound t rfl).symm
  | none =>
    refine (ensures_readCatalog fun _ he => he.reads).bind ?_ fun e he => he
    intro t ht
    exact (ensures_keep ht.symm).bind_ok fun _ _ => ensures_pure ht

/-- A table is found as it is without a cache. -/
theorem gives_find : s.Gives k lifetime (s.find raw) (s.findIn k raw) := by
  refine (ensures_ofExcept (Table.readName raw)).bind_eq ?_
  intro name _
  exact gives_catalogTable.bind_eq (g := fun t => .ok (s.overlaid name t)) fun t _ =>
    ensures_pure rfl

/-- A table that the catalog gives has columns and a key there, and is made of them. -/
theorem exists_of_readIn {t : Table} (h : s.readIn k name = .ok t) :
    ∃ columns key, s.columnsIn k name = .ok columns ∧ s.primaryKeyIn k name = .ok (some key) ∧
      Table.ofColumns s.schema name columns key = .ok t := by
  obtain ⟨columns, hcolumns, h⟩ := bind_eq_ok_iff.1 h
  split at h
  · cases h
  next hne =>
  obtain ⟨key, hkey, h⟩ := bind_eq_ok_iff.1 h
  cases key with
  | some key =>
    rw [Table.ofCatalog, if_neg hne] at h
    exact ⟨columns, key, hcolumns, hkey, h⟩
  | none =>
    rw [Table.ofCatalog, if_neg hne] at h
    cases h

/-- A table for reading alone is found as it is without a cache. -/
theorem gives_findReadable : s.Gives k lifetime (s.findReadable raw) (s.findReadableIn k raw) := by
  refine (ensures_ofExcept (Table.readName raw)).bind_eq ?_
  intro name _
  refine ensures_cached?.bind_ok ?_
  intro found hfound
  cases found with
  | some t =>
    -- only tables with a key are in the cache
    have ht := hfound t rfl
    obtain ⟨-, key, -, hkey, -⟩ := exists_of_readIn ht
    refine ensures_pure ?_
    rw [readReadableIn, hkey]
    show _ = (s.readIn k name).map (s.overlaid name)
    rw [ht]
    rfl
  | none =>
    rw [readReadableIn, bind_assoc]
    refine (ensures_primaryKey fun _ he => he.reads).bind_eq ?_
    intro key _
    cases key with
    | some key =>
      exact gives_catalogTable.bind_eq (g := fun t => .ok (s.overlaid name t)) fun t _ =>
        ensures_pure rfl
    | none =>
      rw [bind_assoc]
      refine (ensures_columns fun _ he => he.reads).bind_eq ?_
      intro columns _
      exact (ensures_ofExcept _).bind_eq fun t _ => ensures_pure rfl

/-! ### What is found

The two finders side by side, as functions of the catalog. They read the same two things in
different orders, and the one for reading alone makes do without a key. -/

/-- The catalog lists columns of the table and names no key, or one that is blank. -/
def IsKeyless (s : TableSource) (k : Catalog) (raw : String) : Prop :=
  ∃ name columns, Table.readName raw = .ok name ∧ s.columnsIn k name = .ok columns ∧
    columns ≠ [] ∧ s.primaryKeyIn k name = .ok none

/-- The catalog fails with `e` as it is asked for the key, and there are no columns either: it fails
with `e'` as it is asked for them, or it lists none. -/
def IsUnreadable (s : TableSource) (k : Catalog) (raw : String) (e e' : Failure) : Prop :=
  ∃ name, Table.readName raw = .ok name ∧ s.primaryKeyIn k name = .error e ∧
    (s.columnsIn k name = .error e' ∨
      s.columnsIn k name = .ok [] ∧ e' = .field "table" .notFound)

/-- A table is the same for reading alone, but where the catalog gives columns without a key, which
are enough for that, and where it gives neither, since the key is asked for first. -/
theorem findReadableIn_cases (s : TableSource) (k : Catalog) (raw : String) :
    s.findReadableIn k raw = s.findIn k raw ∨
    (s.IsKeyless k raw ∧ s.findIn k raw = .error (.field "primary_key" .notFound) ∧
      ∃ t, s.findReadableIn k raw = .ok t) ∨
    (∃ e e', s.IsUnreadable k raw e e' ∧ s.findReadableIn k raw = .error e ∧
      s.findIn k raw = .error e') := by
  unfold findReadableIn findIn
  cases hname : Table.readName raw with
  | error e => exact .inl rfl
  | ok name =>
  show (s.readReadableIn k name).map (s.overlaid name) = (s.readIn k name).map (s.overlaid name) ∨
    (_ ∧ (s.readIn k name).map (s.overlaid name) = _ ∧
      ∃ t, (s.readReadableIn k name).map (s.overlaid name) = _) ∨
    (∃ e e', _ ∧ (s.readReadableIn k name).map (s.overlaid name) = _ ∧
      (s.readIn k name).map (s.overlaid name) = _)
  unfold readReadableIn
  -- The key decides: it fails, is there, or is missing; and then the columns.
  cases hkey : s.primaryKeyIn k name with
  | error e =>
    unfold readIn
    cases hcolumns : s.columnsIn k name with
    | error e' => exact .inr (.inr ⟨e, e', ⟨name, hname, hkey, .inl hcolumns⟩, rfl, rfl⟩)
    | ok columns =>
    cases columns with
    | nil => exact .inr (.inr ⟨e, _, ⟨name, hname, hkey, .inr ⟨hcolumns, rfl⟩⟩, rfl, rfl⟩)
    | cons column columns =>
      rw [hkey]
      exact .inl rfl
  | ok key =>
  cases key with
  | some key => exact .inl rfl
  | none =>
    unfold readIn
    cases hcolumns : s.columnsIn k name with
    | error e => exact .inl rfl
    | ok columns =>
    cases columns with
    | nil => exact .inl rfl
    | cons column columns =>
      rw [hkey]
      exact .inr (.inl ⟨⟨name, _, hname, hcolumns, nofun, hkey⟩, rfl, _, rfl⟩)

/-- A table made of listed columns has the names it is made with. -/
theorem names_of_ofColumns {schema key : String} {columns : List ListedColumn} {t : Table}
    (h : Table.ofColumns schema name columns key = .ok t) : t.schema = schema ∧ t.name = name := by
  have hadd : ∀ (columns : List ListedColumn) (t : Table),
      (columns.foldl Table.addColumn t).schema = t.schema ∧
        (columns.foldl Table.addColumn t).name = t.name := by
    intro columns
    induction columns with
    | nil => exact fun t => ⟨rfl, rfl⟩
    | cons column columns ih => exact fun t => ih (t.addColumn column)
  unfold Table.ofColumns at h
  split at h
  · cases h
  · cases h
    exact hadd columns _

/-- A table of the catalog has the names it is read by. -/
theorem names_of_readIn {t : Table} (h : s.readIn k name = .ok t) :
    t.schema = s.schema ∧ t.name = name := by
  obtain ⟨columns, key, -, -, hmade⟩ := exists_of_readIn h
  exact names_of_ofColumns hmade

/-- So has one for reading alone. -/
theorem names_of_readReadableIn {t : Table} (h : s.readReadableIn k name = .ok t) :
    t.schema = s.schema ∧ t.name = name := by
  obtain ⟨key, -, h⟩ := bind_eq_ok_iff.1 h
  cases key with
  | some key => exact names_of_readIn h
  | none =>
    obtain ⟨columns, -, h⟩ := bind_eq_ok_iff.1 h
    exact names_of_ofColumns h

/-- An overlay leaves a table its names. -/
theorem names_overlaid (s : TableSource) (name : String) (t : Table) :
    (s.overlaid name t).schema = t.schema ∧ (s.overlaid name t).name = t.name := by
  unfold overlaid
  split <;> exact ⟨rfl, rfl⟩

/-- A table that is read by its name and overlaid bears the name that was asked for, trimmed and in
lower case, and the schema it was looked for in. -/
theorem names_of_overlaid {t : Table} {read : String → Except Failure Table}
    (hread : ∀ name u, read name = .ok u → u.schema = s.schema ∧ u.name = name)
    (h : (do let name ← Table.readName raw; return s.overlaid name (← read name)) = .ok t) :
    t.schema = s.schema ∧ t.name = Text.lower (Text.trim raw) := by
  obtain ⟨name, hname, h⟩ := bind_eq_ok_iff.1 h
  obtain ⟨u, hu, h⟩ := bind_eq_ok_iff.1 h
  obtain rfl := pure_eq_ok_iff.1 h
  obtain ⟨hschema, hu⟩ := hread name u hu
  rw [(s.names_overlaid name u).1, (s.names_overlaid name u).2, hschema, hu]
  exact ⟨rfl, (Table.readName_eq_ok_iff.1 hname).1⟩

theorem names_of_findIn {t : Table} (h : s.findIn k raw = .ok t) :
    t.schema = s.schema ∧ t.name = Text.lower (Text.trim raw) :=
  names_of_overlaid (fun _ _ => names_of_readIn) h

theorem names_of_findReadableIn {t : Table} (h : s.findReadableIn k raw = .ok t) :
    t.schema = s.schema ∧ t.name = Text.lower (Text.trim raw) :=
  names_of_overlaid (fun _ _ => names_of_readReadableIn) h

/-! ### One cache through many calls

From one action to any calls: the invariant is kept by each call, and so by all of them. -/

/-- What a user of tables does: find one, in either way, or forget some of what the cache holds. -/
inductive Call where
  | find (raw : String)
  | findReadable (raw : String)
  | forget (name : String)
  | clear

variable {σ : Type} (reply : (q : Request) → σ → q.Reply × σ)

/-- What is found with a cache, and the server in a state. -/
def found (s : TableSource) (raw : String) (c : TableCache) (st : σ) : Except Failure Table :=
  ((s.find raw c).play reply st).1.1

@[inherit_doc found]
def foundReadable (s : TableSource) (raw : String) (c : TableCache) (st : σ) :
    Except Failure Table :=
  ((s.findReadable raw c).play reply st).1.1

/-- The cache and the server after a call. -/
def step (s : TableSource) (state : TableCache × σ) : Call → TableCache × σ
  | .find raw =>
    let played := (s.find raw state.1).play reply state.2
    (played.1.2, played.2.2)
  | .findReadable raw =>
    let played := (s.findReadable raw state.1).play reply state.2
    (played.1.2, played.2.2)
  | .forget name => (state.1.forget name, state.2)
  | .clear => (state.1.clear, state.2)

variable {reply} (hserved : k.IsServed lifetime reply)

include hserved

/-- With a current cache, found is what the catalog gives, and the cache is current after it. -/
theorem find_play (raw : String) (hc : s.IsCurrent k lifetime c) (st : σ) :
    s.found reply raw c st = s.findIn k raw ∧
      s.IsCurrent k lifetime ((s.find raw c).play reply st).1.2 :=
  gives_find.play hserved.answers hc st

/-- The same for a table for reading alone. -/
theorem findReadable_play (raw : String) (hc : s.IsCurrent k lifetime c) (st : σ) :
    s.foundReadable reply raw c st = s.findReadableIn k raw ∧
      s.IsCurrent k lifetime ((s.findReadable raw c).play reply st).1.2 :=
  gives_findReadable.play hserved.answers hc st

/-- Each call leaves a current cache current. -/
theorem isCurrent_step {state : TableCache × σ} (h : s.IsCurrent k lifetime state.1)
    (call : Call) : s.IsCurrent k lifetime (s.step reply state call).1 := by
  cases call with
  | find raw =>
    simp only [step]
    exact (find_play hserved raw h state.2).2
  | findReadable raw =>
    simp only [step]
    exact (findReadable_play hserved raw h state.2).2
  | forget name => exact h.forget name
  | clear => exact h.clear

/-- Whatever was called before, the cache is current. -/
theorem isCurrent_foldl (calls : List Call) {state : TableCache × σ}
    (h : s.IsCurrent k lifetime state.1) :
    s.IsCurrent k lifetime (calls.foldl (s.step reply) state).1 := by
  induction calls generalizing state with
  | nil => exact h
  | cons call calls ih => exact ih (isCurrent_step hserved h call)

/-- Whatever was called before, a table is found as with a new cache, in either way; it bears the
name that was asked for, in the schema of the source; and the two ways differ only in tables that
have columns and no key, which are found for reading alone, and in which failure is told where the
catalog gives neither. -/
theorem found_after_calls (calls : List Call) (raw : String) (st st₀ : σ) :
    let used := calls.foldl (s.step reply) ({ lifetime }, st)
    let table := s.found reply raw used.1 used.2
    let readable := s.foundReadable reply raw used.1 used.2
    table = s.found reply raw { lifetime } st₀ ∧
    readable = s.foundReadable reply raw { lifetime } st₀ ∧
    (∀ t, table = .ok t ∨ readable = .ok t →
      t.name = Text.lower (Text.trim raw) ∧ t.schema = s.schema) ∧
    (∀ t, table = .ok t → readable = .ok t) ∧
    (readable = table ∨
      (s.IsKeyless k raw ∧ table = .error (.field "primary_key" .notFound) ∧
        ∃ t, readable = .ok t) ∨
      (∃ e e', s.IsUnreadable k raw e e' ∧ readable = .error e ∧ table = .error e')) := by
  intro used table readable
  have hused : s.IsCurrent k lifetime used.1 := isCurrent_foldl hserved calls isCurrent_new
  have htable : table = s.findIn k raw := (find_play hserved raw hused used.2).1
  have hreadable : readable = s.findReadableIn k raw :=
    (findReadable_play hserved raw hused used.2).1
  have hnew : s.found reply raw { lifetime } st₀ = s.findIn k raw :=
    (find_play hserved raw isCurrent_new st₀).1
  have hnewReadable : s.foundReadable reply raw { lifetime } st₀ = s.findReadableIn k raw :=
    (findReadable_play hserved raw isCurrent_new st₀).1
  have hcases := s.findReadableIn_cases k raw
  rw [← htable, ← hreadable] at hcases
  refine ⟨htable.trans hnew.symm, hreadable.trans hnewReadable.symm, ?_, ?_, hcases⟩
  · intro t ht
    rw [htable, hreadable] at ht
    rcases ht with ht | ht
    · exact (names_of_findIn ht).symm
    · exact (names_of_findReadableIn ht).symm
  · intro t ht
    rcases hcases with heq | ⟨-, hnone, -⟩ | ⟨e, e', -, -, hnone⟩
    · exact heq.trans ht
    · rw [ht] at hnone
      cases hnone
    · rw [ht] at hnone
      cases hnone

omit hserved in
/-- A table found again and again while entries of the cache end, with an overlay over it. -/
theorem found_after_calls_twice :
    let catalog : CatalogEntry :=
      .ok ([⟨some "id", some "integer", none, none⟩, ⟨some "owner", some "text", none, none⟩],
        some "id")
    let lifetime : Nat := 2500000000
    let script (n : Nat) : Script :=
      { catalog := fun _ _ => catalog, replies := [], instant := (min n 9 : Nat) * 1000000000 }
    let reply (q : Request) (n : Nat) : q.Reply × Nat := (((script n).reply q).1, n + 1)
    let k : Catalog :=
      { columns := fun _ _ => catalog.map (·.1)
        primaryKey := fun _ _ => catalog.map fun (_, key) => key.map some }
    let s : TableSource := ⟨"public", fun _ => some "columns=owner,name"⟩
    let calls : List Call :=
      [.find "notes", .findReadable " NOTES ", .forget "units", .find "menus", .find "Notes"]
    let used := calls.foldl (s.step reply) ({ lifetime }, 0)
    k.IsServed lifetime reply ∧ used.1.size = 2 ∧
      s.found reply "Notes" used.1 used.2 = s.found reply "Notes" { lifetime } 0 ∧
      (s.found reply "Notes" used.1 used.2).toOption.map (·.columns) = some ["owner", "name"] := by
  intro catalog lifetime script reply k s calls used
  have hserved : k.IsServed lifetime reply := by
    refine ⟨fun _ _ _ => rfl, fun _ _ _ => rfl, ?_⟩
    intro n
    have hends : ((min n 9 : Nat) * 1000000000 + (2500000000 : Nat) : Int) / (1000000000 : Nat) ≤
        9223372036854775807 := by
      omega
    exact Instant.isSome_add?_iff.2 hends
  obtain ⟨htable, -, -, -, -⟩ := found_after_calls hserved (s := s) calls "Notes" 0 0
  exact ⟨hserved, by decide +kernel, htable, by decide +kernel⟩

omit hserved in
/-- Tables without a key in the catalog are not all that the two ways differ in. Where no columns
are listed and the read of the key fails, each tells a failure of its own; and where the catalog
does name a key, but by blanks, the table is found for reading alone and not otherwise. -/
theorem found_ne_foundReadable :
    let lifetime : Nat := TableCache.defaultLifetime
    let s : TableSource := ⟨"public", fun _ => none⟩
    let unread : Catalog :=
      { columns := fun _ _ => .ok []
        primaryKey := fun _ _ => .error .unreachable }
    let blank : Catalog :=
      { columns := fun _ _ => .ok [⟨some "id", some "integer", none, none⟩]
        primaryKey := fun _ _ => .ok (some (some " ")) }
    (unread.IsServed lifetime unread.reply ∧ ¬ s.IsKeyless unread "unit" ∧
      s.found unread.reply "unit" { lifetime } () = .error (.field "table" .notFound) ∧
      s.foundReadable unread.reply "unit" { lifetime } () = .error (.database .unreachable)) ∧
    blank.IsServed lifetime blank.reply ∧
      s.found blank.reply "unit" { lifetime } () = .error (.field "primary_key" .notFound) ∧
      (s.foundReadable blank.reply "unit" { lifetime } ()).toOption.map (·.columns) =
        some ["id"] := by
  intro lifetime s unread blank
  have hkeyed : ¬ s.IsKeyless unread "unit" := by
    rintro ⟨name, columns, -, hcolumns, hne, -⟩
    exact hne (Except.ok.inj hcolumns).symm
  exact ⟨⟨unread.isServed_reply (by decide), hkeyed, by decide +kernel, by decide +kernel⟩,
    blank.isServed_reply (by decide), by decide +kernel, by decide +kernel⟩

end TableSource
end TenantGate
