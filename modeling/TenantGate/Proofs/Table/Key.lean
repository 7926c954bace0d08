import TenantGate.Proofs.Table.Transparency
/-!
# The key of a table

An overlay may name the key of a table, and so may the catalog. What an overlay names is said line
by line (`Overlay.keyIn?`), the last line that names a key being the one that counts. A table is
found exactly if the catalog names a key, because the catalog is looked at by itself before the
overlay is laid over it; the key of a table that is found is then the overlay's, if it names one.
-/

namespace TenantGate

open Server

/-! ### Keys in overlays

The key is set again by every line that names one, so the last of them counts. -/

namespace Overlay

open Text

/-- The settings that name the key. -/
def keySettings : List String := ["primary_key", "pk"]

/-- The key that a line of an overlay names, if it names one: a setting without a value does not. -/
def keyIn? (line : String) : Option String :=
  if isSkipped (trim line) then none
  else
    match splitOnce '=' (trim line) with
    | some (name, value) =>
      if lower (trim name) ∈ keySettings ∧ trim value ≠ "" then some (trim value) else none
    | none => none

/-- The key that an overlay names, if it names one. -/
def key? (text : String) : Option String := ((lines text).filterMap keyIn?).getLast?

/-- A setting of the key sets it unless its value is empty, and no other setting does. -/
theorem primaryKey_set (o : Overlay) (name value : String) :
    (o.set name value).primaryKey =
      if lower name ∈ keySettings ∧ value ≠ "" then some value else o.primaryKey := by
  unfold set
  split
  · next hname =>
    by_cases hvalue : value = "" <;> simp [hname, hvalue, keySettings]
  · next hname =>
    by_cases hvalue : value = "" <;> simp [hname, hvalue, keySettings]
  all_goals simp_all [keySettings]

/-- A line that names a key sets it, and every other line leaves it as it is. -/
theorem primaryKey_addLine (o : Overlay) (line : String) :
    (o.addLine line).primaryKey = (keyIn? line).or o.primaryKey := by
  unfold addLine keyIn?
  by_cases hskipped : isSkipped (trim line) = true
  · rw [if_pos hskipped, if_pos hskipped, Option.none_or]
  · rw [if_neg hskipped, if_neg hskipped]
    cases splitOnce '=' (trim line) with
    | none => rfl
    | some setting =>
      obtain ⟨name, value⟩ := setting
      dsimp only
      rw [primaryKey_set]
      split <;> rfl

/-- Of many lines, the last that names a key sets it. -/
theorem primaryKey_foldl (ls : List String) (o : Overlay) :
    (ls.foldl addLine o).primaryKey = (ls.filterMap keyIn?).getLast?.or o.primaryKey := by
  induction ls generalizing o with
  | nil => rfl
  | cons line ls ih =>
    rw [List.foldl_cons, ih, primaryKey_addLine]
    cases hline : keyIn? line with
    | none => rw [List.filterMap_cons_none hline, Option.none_or]
    | some key =>
      rw [List.filterMap_cons_some hline, List.getLast?_cons]
      cases (ls.filterMap keyIn?).getLast? <;> rfl

/-- An overlay has the key that its text names. -/
theorem primaryKey_parse (text : String) : (parse text).primaryKey = key? text := by
  rw [parse, primaryKey_foldl, key?, Option.or_none]

end Overlay

/-! ### Keys of tables

The catalog is read first, and a table without a key in it is refused there. So the overlay can
replace a key, but it cannot supply one. -/

/-- The columns of a table do not touch its key. -/
theorem Table.primaryKey_foldl_addColumn (columns : List ListedColumn) (t : Table) :
    (columns.foldl addColumn t).primaryKey = t.primaryKey := by
  induction columns generalizing t with
  | nil => rfl
  | cons column columns ih => exact ih (t.addColumn column)

namespace TableSource

variable {s : TableSource} {k : Catalog} {lifetime : Nat} {name raw : String}

/-- The key that the overlay of a table names, if there is one and it names one. -/
def overlayKey? (s : TableSource) (name : String) : Option String :=
  (s.overlays name).bind Overlay.key?

/-- The overlay's key stands over that of the table. -/
theorem primaryKey_overlaid (s : TableSource) (name : String) (t : Table) :
    (s.overlaid name t).primaryKey = (s.overlayKey? name).getD t.primaryKey := by
  unfold overlaid overlayKey?
  cases s.overlays name with
  | none => rfl
  | some text => exact congrArg (·.getD t.primaryKey) (Overlay.primaryKey_parse text)

variable {columns : List ListedColumn} {key? : Option String}

/-- From a catalog that can be read and lists columns, a table is read if a key is named there. -/
theorem readIn_eq (hcolumns : s.columnsIn k name = .ok columns) (hne : columns ≠ [])
    (hkey : s.primaryKeyIn k name = .ok key?) :
    s.readIn k name = Table.ofCatalog s.schema name columns key? := by
  unfold readIn
  rw [hcolumns, hkey]
  cases columns with
  | nil => exact absurd rfl hne
  | cons column columns => rfl

/-- With columns and a key, there is a table with that key. -/
theorem exists_of_ofCatalog (schema key : String) (hne : columns ≠ []) :
    ∃ t, Table.ofCatalog schema name columns (some key) = .ok t ∧ t.primaryKey = key := by
  have hempty : ¬ columns.isEmpty = true := by simpa using hne
  refine ⟨_, by rw [Table.ofCatalog, if_neg hempty, Table.ofColumns, if_neg hempty], ?_⟩
  exact Table.primaryKey_foldl_addColumn columns _

theorem ofCatalog_none {schema : String} (hne : columns ≠ []) :
    Table.ofCatalog schema name columns none = .error (.field "primary_key" .notFound) := by
  rw [Table.ofCatalog, if_neg (by simpa using hne)]

/-- What is found under a name of which the catalog lists columns. -/
theorem findIn_eq (hname : Table.readName raw = .ok name)
    (hcolumns : s.columnsIn k name = .ok columns) (hne : columns ≠ [])
    (hkey : s.primaryKeyIn k name = .ok key?) :
    s.findIn k raw = (Table.ofCatalog s.schema name columns key?).map (s.overlaid name) := by
  unfold findIn
  rw [hname]
  show (s.readIn k name).map (s.overlaid name) = _
  rw [readIn_eq hcolumns hne hkey]

/-- Over a catalog that can be read and lists columns of the table, and whatever was called before,
a table is found exactly if the catalog names a key; the overlay cannot make up for a missing one.
The key of a table that is found is the overlay's if it names one, and otherwise the catalog's. -/
theorem found_key {σ : Type} {reply : (q : Request) → σ → q.Reply × σ}
    (hserved : k.IsServed lifetime reply) (hname : Table.readName raw = .ok name)
    (hcolumns : s.columnsIn k name = .ok columns) (hne : columns ≠ [])
    (hkey : s.primaryKeyIn k name = .ok key?) (calls : List Call) (st : σ) :
    let used := calls.foldl (s.step reply) ({ lifetime }, st)
    let table := s.found reply raw used.1 used.2
    ((∃ t, table = .ok t) ↔ ∃ key, key? = some key) ∧
    (∀ t key, table = .ok t → key? = some key →
      t.primaryKey = (s.overlayKey? name).getD key) ∧
    (table = .error (.field "primary_key" .notFound) ↔ key? = none) := by
  intro used table
  -- a current cache does not show, so the table is what the catalog and the overlay make it
  have hused : s.IsCurrent k lifetime used.1 := isCurrent_foldl hserved calls isCurrent_new
  have htable : table = (Table.ofCatalog s.schema name columns key?).map (s.overlaid name) :=
    (find_play hserved raw hused used.2).1.trans (findIn_eq hname hcolumns hne hkey)
  cases key? with
  | none =>
    have hnone : table = .error (.field "primary_key" .notFound) := by
      rw [htable, ofCatalog_none hne]
      rfl
    rw [hnone]
    simp
  | some key =>
    obtain ⟨t, ht, hprimary⟩ := exists_of_ofCatalog s.schema key hne
    have hsome : table = .ok (s.overlaid name t) := by
      rw [htable, ht]
      rfl
    have hoverlaid := s.primaryKey_overlaid name t
    rw [hprimary] at hoverlaid
    rw [hsome]
    refine ⟨by simp, ?_, by simp⟩
    rintro _ _ ⟨⟩ ⟨⟩
    exact hoverlaid

/-- The last key that the overlay names stands over the catalog's, in a table out of the cache. -/
theorem found_key_overlaid :
    let catalog : CatalogEntry :=
      .ok ([⟨some "id", some "integer", none, none⟩, ⟨some "code", some "text", none, none⟩],
        some " id ")
    let lifetime : Nat := TableCache.defaultLifetime
    let script : Script := { catalog := fun _ _ => catalog, replies := [] }
    let reply (q : Request) (u : Unit) : q.Reply × Unit := ((script.reply q).1, u)
    let k : Catalog :=
      { columns := fun _ _ => catalog.map (·.1)
        primaryKey := fun _ _ => catalog.map fun (_, key) => key.map some }
    let s : TableSource := ⟨"public", fun _ => some "pk = id\n primary_key = code\npk="⟩
    let used := [Call.find "Units"].foldl (s.step reply) ({ lifetime }, ())
    k.IsServed lifetime reply ∧ s.primaryKeyIn k "units" = .ok (some "id") ∧
      s.overlayKey? "units" = some "code" ∧
      ∃ t, s.found reply " UNITS" used.1 used.2 = .ok t ∧ t.primaryKey = "code" := by
  intro catalog lifetime script reply k s used
  have hclock : (Instant.add? 0 lifetime).isSome = true := by decide
  have hserved : k.IsServed lifetime reply :=
    ⟨fun _ _ _ => rfl, fun _ _ _ => rfl, fun _ => hclock⟩
  have hkey : s.primaryKeyIn k "units" = .ok (some "id") := by decide +kernel
  have hoverlay : s.overlayKey? "units" = some "code" := by decide +kernel
  have hname : Table.readName " UNITS" = .ok "units" := by decide +kernel
  obtain ⟨columns, hcolumns, hne⟩ :
      ∃ columns, s.columnsIn k "units" = .ok columns ∧ columns ≠ [] :=
    ⟨_, rfl, by decide +kernel⟩
  obtain ⟨hfound, hprimary, -⟩ :=
    found_key hserved hname hcolumns hne hkey [Call.find "Units"] ()
  obtain ⟨t, ht⟩ := hfound.2 ⟨"id", rfl⟩
  refine ⟨hserved, hkey, hoverlay, t, ht, ?_⟩
  rw [hprimary t "id" ht rfl, hoverlay]
  rfl

/-- The overlay names a key, and the table, of which the catalog lists columns, is not found for
want of one. -/
theorem not_found_with_overlay_key :
    let catalog : CatalogEntry :=
      .ok ([⟨some "code", some "text", none, none⟩, ⟨some "label", some "text", none, none⟩], none)
    let lifetime : Nat := TableCache.defaultLifetime
    let script : Script := { catalog := fun _ _ => catalog, replies := [] }
    let reply (q : Request) (u : Unit) : q.Reply × Unit := ((script.reply q).1, u)
    let k : Catalog :=
      { columns := fun _ _ => catalog.map (·.1)
        primaryKey := fun _ _ => catalog.map fun (_, key) => key.map some }
    let s : TableSource := ⟨"public", fun _ => some "primary_key=code"⟩
    k.IsServed lifetime reply ∧ s.overlayKey? "unit" = some "code" ∧
      (∃ c cs, s.columnsIn k "unit" = .ok (c :: cs)) ∧ s.primaryKeyIn k "unit" = .ok none ∧
      s.found reply "unit" { lifetime } () = .error (.field "primary_key" .notFound) := by
  intro catalog lifetime script reply k s
  have hclock : (Instant.add? 0 lifetime).isSome = true := by decide
  refine ⟨⟨fun _ _ _ => rfl, fun _ _ _ => rfl, fun _ => hclock⟩, ?_, ⟨_, _, rfl⟩, ?_, ?_⟩
  all_goals decide +kernel

end TableSource
end TenantGate
