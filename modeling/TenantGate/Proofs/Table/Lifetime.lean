import Mathlib.Algebra.Group.Nat.Defs
import TenantGate.Proofs.Table.Transparency
import TenantGate.Settings.Basic
/-!
# Lifetimes that end beyond the clock

The settings take every unsigned word of 64 bits for a lifetime of cached tables, in seconds, while
the clock counts its seconds in a signed one. A table can be kept exactly if its lifetime ends at an
instant of the clock (`TableCache.isSome_insert?_iff`); with a lifetime of whole seconds, that is a
matter of the seconds of the instant (`Instant.hasRoom_seconds_iff`). Where it does not, a table
that the catalog gives cannot be kept and is therefore not found; all else is found as ever
(`Settings.found_of_load`).
-/

namespace TenantGate

open Server TenantGate.Action

/-! ### The lifetime that is set

The setting is any unsigned word; nothing else is asked of it when the settings are read. -/

/-- What is read as an unsigned word is below `2 ^ 64`. -/
theorem Number.lt_of_readUInt64? {s : String} {n : Nat} (h : readUInt64? s = some n) :
    n < 2 ^ 64 := by
  obtain ⟨-, hsize⟩ := Option.filter_eq_some_iff.1 h
  exact of_decide_eq_true hsize

namespace Settings

variable {lookup : String → Option String} {settings : Settings}

/-- The lifetime is read from its own setting, and is the usual one without that. -/
theorem lifetime_of_load (h : load lookup = .ok settings) :
    readOr .cacheLifetime Number.readUInt64? defaultCacheLifetime
      (value? lookup .cacheLifetime) = .ok settings.cacheLifetime := by
  obtain ⟨_, -, h⟩ := bind_eq_ok_iff.1 h
  obtain ⟨_, -, h⟩ := bind_eq_ok_iff.1 h
  obtain ⟨_, -, h⟩ := bind_eq_ok_iff.1 h
  obtain ⟨lifetime, hlifetime, h⟩ := bind_eq_ok_iff.1 h
  obtain ⟨_, -, h⟩ := bind_eq_ok_iff.1 h
  obtain ⟨-, h⟩ := ite_throw_eq_ok_iff.1 h
  obtain ⟨_, -, h⟩ := bind_eq_ok_iff.1 h
  obtain rfl := pure_eq_ok_iff.1 h
  exact hlifetime

/-- Every lifetime that is set is below `2 ^ 64`. -/
theorem lifetime_lt (h : load lookup = .ok settings) : settings.cacheLifetime < 2 ^ 64 := by
  have hread := lifetime_of_load h
  unfold readOr at hread
  split at hread
  · rw [← Except.ok.inj hread]
    decide
  · split at hread
    next hvalue =>
      rw [← Except.ok.inj hread]
      exact Number.lt_of_readUInt64? hvalue
    next => cases hread

end Settings

/-! ### The end of a lifetime

Instants are in nanoseconds, and the clock's seconds are a signed word. Whether a lifetime has room
is therefore a matter of its whole seconds. -/

/-- A lifetime that begins at the instant ends at an instant of the clock, whose seconds are a word
of 64 bits. -/
def Instant.HasRoom (now : Instant) (lifetime : Nat) : Prop :=
  (now + lifetime) / perSecond ≤ Int64.maxValue.toInt

/-- Whole seconds add up with those of the instant. -/
theorem Instant.hasRoom_seconds_iff {now : Instant} {seconds : Nat} :
    now.HasRoom (seconds * perSecond) ↔ now / perSecond + seconds ≤ Int64.maxValue.toInt := by
  rw [HasRoom, Int.natCast_mul, Int.add_mul_ediv_right _ _ (by decide)]

/-- A table can be kept exactly if its lifetime ends at an instant of the clock. -/
theorem TableCache.isSome_insert?_iff {c : TableCache} {name : String} {t : Table}
    {now : Instant} : (c.insert? name t now).isSome = true ↔ now.HasRoom c.lifetime := by
  rw [insert?, Option.isSome_map]
  exact Instant.isSome_add?_iff

/-- A table cannot be kept exactly if its lifetime ends beyond the clock. -/
theorem TableCache.insert?_eq_none_iff {c : TableCache} {name : String} {t : Table}
    {now : Instant} : c.insert? name t now = none ↔ ¬ now.HasRoom c.lifetime := by
  rw [← Option.not_isSome_iff_eq_none, isSome_insert?_iff]

/-! ### Clocks that show too late an instant

The opposite of `Server.Catalog.IsServed`: the catalog is read as ever, and no lifetime has room. -/

/-- The server, whatever its state, answers reads as the catalog does. -/
structure Server.Catalog.IsRead {σ : Type} (k : Catalog)
    (reply : (q : Request) → σ → q.Reply × σ) : Prop where
  columns : ∀ schema name st, (reply (.columns schema name) st).1 = k.columns schema name
  primaryKey : ∀ schema name st, (reply (.primaryKey schema name) st).1 = k.primaryKey schema name

/-- The reply is that of the catalog, or an instant from which a lifetime ends beyond the clock. -/
def Server.Catalog.AnswersBeyond (k : Catalog) (lifetime : Nat) : Exchange → Prop
  | ⟨.instant, now⟩ => ¬ Instant.HasRoom now lifetime
  | e => k.AnswersReads e

/-- Such a reply is that of the catalog, where the catalog is read. -/
theorem Server.Catalog.AnswersBeyond.reads {k : Catalog} {lifetime : Nat} {e : Exchange}
    (h : k.AnswersBeyond lifetime e) : k.AnswersReads e := by
  obtain ⟨q, reply⟩ := e
  cases q with
  | instant => trivial
  | _ => exact h

section Served

variable {σ : Type} {k : Catalog} {lifetime : Nat} {reply : (q : Request) → σ → q.Reply × σ}
  (hread : k.IsRead reply)

include hread

/-- Where the clock shows instants with room, the catalog is served as the cache needs it. -/
theorem Server.Catalog.IsRead.isServed
    (hroom : ∀ st, Instant.HasRoom (reply .instant st).1 lifetime) : k.IsServed lifetime reply where
  columns := hread.columns
  primaryKey := hread.primaryKey
  instant st := Instant.isSome_add?_iff.2 (hroom st)

/-- Where it shows none, every reply is beyond it. -/
theorem Server.Catalog.IsRead.answersBeyond
    (hroom : ∀ st, ¬ Instant.HasRoom (reply .instant st).1 lifetime) (q : Request) (st : σ) :
    k.AnswersBeyond lifetime ⟨q, (reply q st).1⟩ := by
  cases q with
  | columns schema name => exact hread.columns schema name st
  | primaryKey schema name => exact hread.primaryKey schema name st
  | instant => exact hroom st
  | _ => trivial

end Served

namespace TableSource

/-! ### Tables that cannot be kept

A table of the catalog has to be kept before it is given. So where keeping fails, the look-up fails,
and the cache is as empty as before; a table that would not be kept, or a failure that comes
earlier, is told as ever. -/

/-- What is told of a table: that it cannot be kept, if there is one to keep. -/
def refusing (kept found : Except Failure Table) : Except Failure Table :=
  match kept with
  | .ok _ => .error .expiryOutOfRange
  | .error _ => found

variable {s : TableSource} {k : Catalog} {lifetime : Nat} {name raw : String}

/-- On every run with an empty cache, over the catalog and with a clock that shows too late an
instant each time, the action gives this result; and the cache stays empty. -/
abbrev GivesUnkept {α : Type} (k : Catalog) (lifetime : Nat) (x : Action α)
    (r : Except Failure α) : Prop :=
  x.Ensures (k.AnswersBeyond lifetime) (· = { lifetime }) (· = r)

/-- Nothing is found in an empty cache. -/
theorem givesUnkept_cached? : GivesUnkept k lifetime (cached? name) (.ok none) := by
  refine (ensures_ask .instant).bind_ok fun now _ => ?_
  refine Ensures.imp (ensures_modifyGet (P := (· = none)) ?_) ?_
  · rintro c rfl
    exact ⟨rfl, rfl⟩
  · rintro r ⟨found, rfl, rfl⟩
    rfl

/-- To keep a table fails. -/
theorem givesUnkept_keep (t : Table) :
    GivesUnkept k lifetime (keep name t) (.error .expiryOutOfRange) := by
  refine (ensures_ask .instant).bind_ok fun now hnow => ?_
  refine (ensures_modifyGet (g := fun c => (c, c)) fun c hc => ⟨hc, hc⟩).bind_ok ?_
  rintro c rfl
  have hnone : TableCache.insert? { lifetime } name t now = none :=
    TableCache.insert?_eq_none_iff.2 hnow
  rw [hnone]
  exact ensures_throw rfl

/-- A table of the catalog is read, and then cannot be kept. -/
theorem givesUnkept_catalogTable : GivesUnkept k lifetime (s.catalogTable name)
    (refusing (s.readIn k name) (s.readIn k name)) := by
  have hresult : refusing (s.readIn k name) (s.readIn k name) =
      s.readIn k name >>= fun _ => .error .expiryOutOfRange := by
    cases s.readIn k name <;> rfl
  rw [hresult]
  refine givesUnkept_cached?.bind (fun found hfound => ?_) nofun
  obtain rfl := Except.ok.inj hfound
  refine (ensures_readCatalog fun _ he => he.reads).bind_eq fun t _ => ?_
  exact (givesUnkept_keep t).bind_error

/-- The overlay is laid over what is found, if something is. -/
theorem GivesUnkept.overlaid {x : Action Table} {kept found : Except Failure Table}
    (hx : GivesUnkept k lifetime x (refusing kept found)) :
    GivesUnkept k lifetime (x >>= fun t => pure (s.overlaid name t))
      (refusing (kept.map (s.overlaid name)) (found.map (s.overlaid name))) := by
  have hresult : refusing (kept.map (s.overlaid name)) (found.map (s.overlaid name)) =
      refusing kept found >>= fun t => .ok (s.overlaid name t) := by
    cases kept <;> rfl
  rw [hresult]
  exact hx.bind_eq fun t _ => ensures_pure rfl

/-- What is found of a table that has to be kept. -/
theorem givesUnkept_find :
    GivesUnkept k lifetime (s.find raw) (refusing (s.findIn k raw) (s.findIn k raw)) := by
  unfold find findIn
  cases Table.readName raw with
  | error e => exact (ensures_throw (Q := (· = .error e)) rfl).bind_error
  | ok name => exact givesUnkept_catalogTable.overlaid

/-- A table is kept only where the catalog names its key, which is asked for first. -/
theorem refusing_readReadableIn (s : TableSource) (k : Catalog) (name : String)
    (f : Table → Table) :
    refusing ((s.readIn k name).map f) ((s.readReadableIn k name).map f) =
      s.primaryKeyIn k name >>= fun key =>
        match key with
        | some _ => refusing ((s.readIn k name).map f) ((s.readIn k name).map f)
        | none => s.columnsIn k name >>= fun columns =>
          Table.ofColumns s.schema name columns "" >>= fun t => .ok (f t) := by
  unfold readReadableIn
  -- With a table there is a key, so the branch that keeps it is taken.
  cases hread : s.readIn k name with
  | ok t =>
    obtain ⟨-, key, -, hkey, -⟩ := exists_of_readIn hread
    rw [hkey]
    rfl
  | error e =>
    cases s.primaryKeyIn k name with
    | error e => rfl
    | ok key =>
      cases key with
      | some key => rfl
      | none => cases s.columnsIn k name <;> rfl

/-- For reading alone, a table without a key is not kept, and so is found. -/
theorem givesUnkept_findReadable : GivesUnkept k lifetime (s.findReadable raw)
    (refusing (s.findIn k raw) (s.findReadableIn k raw)) := by
  unfold findReadable findIn findReadableIn
  cases Table.readName raw with
  | error e => exact (ensures_throw (Q := (· = .error e)) rfl).bind_error
  | ok name =>
    refine givesUnkept_cached?.bind (fun found hfound => ?_) nofun
    obtain rfl := Except.ok.inj hfound
    refine Ensures.imp (Q := (· = _)) ?_ fun r hr =>
      hr.trans (s.refusing_readReadableIn k name _).symm
    refine (ensures_primaryKey fun _ he => he.reads).bind_eq fun key _ => ?_
    cases key with
    | some key => exact givesUnkept_catalogTable.overlaid
    | none =>
      refine (ensures_columns fun _ he => he.reads).bind_eq fun columns _ => ?_
      exact (ensures_ofExcept _).bind_eq fun t _ => ensures_pure rfl

/-! ### Many calls

The invariant is that the cache is empty: no call can fill it. -/

section Calls

variable {σ : Type} {reply : (q : Request) → σ → q.Reply × σ} {c : TableCache}
  (hread : k.IsRead reply) (hroom : ∀ st, ¬ Instant.HasRoom (reply .instant st).1 lifetime)

include hread hroom

/-- A server that plays such a run, for a table that has to be kept. -/
theorem find_play_unkept (raw : String) (hc : c = { lifetime }) (st : σ) :
    s.found reply raw c st = refusing (s.findIn k raw) (s.findIn k raw) ∧
      ((s.find raw c).play reply st).1.2 = { lifetime } :=
  givesUnkept_find.play (hread.answersBeyond hroom) hc st

/-- A server that plays such a run, for a table for reading alone. -/
theorem findReadable_play_unkept (raw : String) (hc : c = { lifetime }) (st : σ) :
    s.foundReadable reply raw c st = refusing (s.findIn k raw) (s.findReadableIn k raw) ∧
      ((s.findReadable raw c).play reply st).1.2 = { lifetime } :=
  givesUnkept_findReadable.play (hread.answersBeyond hroom) hc st

/-- Each call leaves an empty cache empty. -/
theorem step_unkept {state : TableCache × σ} (h : state.1 = { lifetime }) (call : Call) :
    (s.step reply state call).1 = { lifetime } := by
  cases call with
  | find raw =>
    simp only [step]
    exact (find_play_unkept hread hroom raw h state.2).2
  | findReadable raw =>
    simp only [step]
    exact (findReadable_play_unkept hread hroom raw h state.2).2
  | forget name =>
    show state.1.forget name = _
    rw [h]
    rfl
  | clear =>
    show state.1.clear = _
    rw [h]
    rfl

/-- Whatever was called before, the cache is empty. -/
theorem foldl_step_unkept (calls : List Call) {state : TableCache × σ}
    (h : state.1 = { lifetime }) : (calls.foldl (s.step reply) state).1 = { lifetime } := by
  induction calls generalizing state with
  | nil => exact h
  | cons call calls ih => exact ih (step_unkept hread hroom h call)

end Calls

end TableSource

namespace Settings

open TableSource

variable {lookup : String → Option String} {settings : Settings}

/-- With the lifetime that is set, a table can be kept exactly at the instants that have room for
it: their seconds and the seconds that are set add up to a signed word. As long as the clock shows
such instants, tables are found as the catalog gives them, whatever was called before; while it
shows none, what would have to be kept is not found, and all else is. -/
theorem found_of_load {σ : Type} {s : TableSource} {k : Catalog}
    {reply : (q : Request) → σ → q.Reply × σ} (hload : load lookup = .ok settings)
    (hread : k.IsRead reply) (calls : List Call) (raw : String) (st : σ) :
    let lifetime := settings.cacheLifetime * Instant.perSecond
    let used := calls.foldl (s.step reply) (settings.newCache, st)
    let table := s.found reply raw used.1 used.2
    let readable := s.foundReadable reply raw used.1 used.2
    settings.cacheLifetime < 2 ^ 64 ∧
    (∀ now : Instant, now.HasRoom lifetime ↔
      now / Instant.perSecond + settings.cacheLifetime ≤ Int64.maxValue.toInt) ∧
    (∀ (c : TableCache) (name : String) (t : Table) (now : Instant), c.lifetime = lifetime →
      ((c.insert? name t now).isSome = true ↔ now.HasRoom lifetime)) ∧
    ((∀ st, Instant.HasRoom (reply .instant st).1 lifetime) →
      table = s.findIn k raw ∧ readable = s.findReadableIn k raw) ∧
    ((∀ st, ¬ Instant.HasRoom (reply .instant st).1 lifetime) →
      table = refusing (s.findIn k raw) (s.findIn k raw) ∧
      readable = refusing (s.findIn k raw) (s.findReadableIn k raw)) := by
  intro lifetime used table readable
  refine ⟨lifetime_lt hload, fun now => Instant.hasRoom_seconds_iff, ?_, fun hroom => ?_,
    fun hroom => ?_⟩
  · rintro c name t now hlifetime
    rw [TableCache.isSome_insert?_iff, hlifetime]
  · have hserved := hread.isServed hroom
    have hused : s.IsCurrent k lifetime used.1 := isCurrent_foldl hserved calls isCurrent_new
    exact ⟨(find_play hserved raw hused used.2).1, (findReadable_play hserved raw hused used.2).1⟩
  · have hused : used.1 = { lifetime } := foldl_step_unkept hread hroom calls rfl
    exact ⟨(find_play_unkept hread hroom raw hused used.2).1,
      (findReadable_play_unkept hread hroom raw hused used.2).1⟩

/-- The greatest lifetime that has room at the first instant of a clock. -/
theorem found_of_load_greatest :
    let lookup (key : String) : Option String :=
      if key = SettingKey.cacheLifetime.name then some "9223372036854775807" else none
    let catalog : CatalogEntry := .ok ([⟨some "id", some "integer", none, none⟩], some "id")
    let script : Script := { catalog := fun _ _ => catalog, replies := [] }
    let reply (q : Request) (n : Nat) : q.Reply × Nat := ((script.reply q).1, n + 1)
    let k : Catalog :=
      { columns := fun _ _ => catalog.map (·.1)
        primaryKey := fun _ _ => catalog.map fun (_, key) => key.map some }
    let s : TableSource := ⟨"public", fun _ => none⟩
    ∃ settings, load lookup = .ok settings ∧ k.IsRead reply ∧
      (∀ n, Instant.HasRoom (reply .instant n).1
        (settings.cacheLifetime * Instant.perSecond)) ∧
      let used := [Call.find "units", .find "notes"].foldl (s.step reply)
        (settings.newCache, 0)
      s.found reply "Notes" used.1 used.2 = s.findIn k "Notes" ∧
      (s.findIn k "Notes").toOption.map (·.columns) = some ["id"] := by
  intro lookup catalog script reply k s
  have hload : load lookup = .ok
      { databaseUrl := none, httpAddress := defaultAddress, databaseSchema := defaultSchema,
        schemaDirectory := none, cacheLifetime := 9223372036854775807, tenants := .default,
        rowDenials := .parse "", queryDenials := .parse "", queryLimit := defaultQueryLimit } := by
    decide +kernel
  have hread : k.IsRead reply := ⟨fun _ _ _ => rfl, fun _ _ _ => rfl⟩
  have hroom : ∀ n, Instant.HasRoom (reply .instant n).1
      (9223372036854775807 * Instant.perSecond) := by
    intro n
    refine Instant.hasRoom_seconds_iff.2 ?_
    show (0 : Int) / Instant.perSecond + (9223372036854775807 : Nat) ≤ Int64.maxValue.toInt
    decide
  obtain ⟨-, -, -, hfound, -⟩ :=
    found_of_load (s := s) hload hread [.find "units", .find "notes"] "Notes" 0
  exact ⟨_, hload, hread, hroom, (hfound hroom).1, by decide +kernel⟩

/-- The greatest lifetime that can be set has no room at any instant since the first one: the
settings are taken, and no table of the catalog is found. -/
theorem load_without_room :
    let lookup (key : String) : Option String :=
      if key = SettingKey.cacheLifetime.name then some "18446744073709551615" else none
    let catalog : CatalogEntry := .ok ([⟨some "id", some "integer", none, none⟩], some "id")
    let script : Script := { catalog := fun _ _ => catalog, replies := [] }
    let reply (q : Request) (n : Nat) : q.Reply × Nat := ((script.reply q).1, n + 1)
    let s : TableSource := ⟨"public", fun _ => none⟩
    ∃ settings, load lookup = .ok settings ∧
      (∀ (c : TableCache) (name : String) (t : Table) (now : Instant), 0 ≤ now →
        c.lifetime = settings.newCache.lifetime → c.insert? name t now = none) ∧
      s.found reply "notes" settings.newCache 0 = .error .expiryOutOfRange := by
  intro lookup catalog script reply s
  have hload : load lookup = .ok
      { databaseUrl := none, httpAddress := defaultAddress, databaseSchema := defaultSchema,
        schemaDirectory := none, cacheLifetime := 18446744073709551615, tenants := .default,
        rowDenials := .parse "", queryDenials := .parse "", queryLimit := defaultQueryLimit } := by
    decide +kernel
  refine ⟨_, hload, ?_, by decide +kernel⟩
  intro c name t (now : Int) hnow hlifetime
  have hlifetime : c.lifetime = 18446744073709551615 * Instant.perSecond := hlifetime
  have hseconds : 0 ≤ now / Instant.perSecond := Int.ediv_nonneg hnow (by decide)
  rw [TableCache.insert?_eq_none_iff, hlifetime, Instant.hasRoom_seconds_iff]
  show ¬ now / Instant.perSecond + (18446744073709551615 : Nat) ≤ (9223372036854775807 : Int)
  omega

end Settings
end TenantGate
