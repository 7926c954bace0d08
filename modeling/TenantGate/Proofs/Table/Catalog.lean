import Mathlib.Data.List.Infix
import TenantGate.Coercion
import TenantGate.Proofs.Dict
import TenantGate.Proofs.Text
import TenantGate.Proofs.Text.Lower
import TenantGate.Table.Catalog
/-!
# Kinds and parameter types from the catalog

Two tables say how a value is sent to a column that the catalog lists: its kind, which goes by the
words in the name of its type, and the type that a parameter is cast to, which goes by a list of
types that need no cast. A parameter that is cast ought to be a text. That holds for the types whose
name has none of the words of a number, a truth value or a time in it (`NamesScalar`), and for no
other one that is not on the list (`Table.takesTexts_of_cast`): the name of a geometric or a range
type has such a word in it by chance.
-/

namespace TenantGate

open Sql Text

/-! ### Words in type names

The kind is found by looking for words in the name of the type, in a fixed order and with exceptions
that come first. For whether the kind is scalar the order does not matter: one of the words has to
occur, and no exception apply. -/

namespace Kind

/-- A word is looked for at every place. -/
theorem occursIn_iff {part cs : List Char} : occursIn part cs = true ↔ part <:+: cs := by
  induction cs with
  | nil => rw [occursIn, List.isEmpty_iff, List.infix_nil]
  | cons c cs ih =>
    rw [occursIn, Bool.or_eq_true, List.isPrefixOf_iff_prefix, ih, List.infix_cons_iff]

/-- The words that stand for numbers, truth values and times. -/
def scalarWords : List String :=
  ["int", "numeric", "decimal", "double", "real", "float", "bool", "timestamp", "date", "time"]

/-- The name of a type has the word of a number, a truth value or a time in it, and is neither that
of a JSON type nor that of a duration or a time of day. -/
def NamesScalar (dataType : String) : Prop :=
  let name := (lower (trim dataType)).toList
  (∃ word ∈ scalarWords, word.toList <:+: name) ∧
    ¬ ("json".toList <+: name ∨ "interval".toList <:+: name ∨ name = "time".toList ∨
      "time ".toList <+: name)

/-- The kinds that are neither text nor JSON. -/
def IsScalar (kind : Kind) : Prop := kind ≠ .string ∧ kind ≠ .json

instance : DecidablePred IsScalar := fun kind =>
  inferInstanceAs (Decidable (kind ≠ .string ∧ kind ≠ .json))

/-- The kind of a type is scalar exactly if the name of the type says so. -/
theorem isScalar_ofCatalogType_iff {dataType : String} :
    (ofCatalogType dataType).IsScalar ↔ NamesScalar dataType := by
  unfold ofCatalogType NamesScalar
  simp only [Bool.or_eq_true, decide_eq_true_eq, List.isPrefixOf_iff_prefix, occursIn_iff,
    List.any_eq_true]
  generalize (lower (trim dataType)).toList = name
  split
  next hjson => exact iff_of_false (by decide) fun h => h.2 (.inl hjson)
  next hjson =>
  split
  next htext =>
    refine iff_of_false (by decide) fun h => h.2 (.inr ?_)
    rwa [or_assoc] at htext
  next htext =>
  rw [or_assoc] at htext
  rw [and_iff_left (not_or.2 ⟨hjson, htext⟩)]
  -- the words, in the order in which they are looked for
  split
  next hint => exact iff_of_true (by decide) ⟨"int", by decide, hint⟩
  next hint =>
  split
  next hfloat =>
    obtain ⟨word, hword, h⟩ := hfloat
    have hscalar : ∀ w ∈ ["numeric", "decimal", "double", "real", "float"], w ∈ scalarWords := by
      decide
    exact iff_of_true (by decide) ⟨word, hscalar word hword, h⟩
  next hfloat =>
  split
  next hbool => exact iff_of_true (by decide) ⟨"bool", by decide, hbool⟩
  next hbool =>
  split
  next htime =>
    obtain (h | h) | h := htime
    · exact iff_of_true (by decide) ⟨"timestamp", by decide, h⟩
    · exact iff_of_true (by decide) ⟨"date", by decide, h⟩
    · exact iff_of_true (by decide) ⟨"time", by decide, h⟩
  next htime =>
    have hwords : scalarWords = "int" :: (["numeric", "decimal", "double", "real", "float"] ++
        ["bool", "timestamp", "date", "time"]) := rfl
    have hnone : ∀ word ∈ scalarWords, ¬ word.toList <:+: name := by
      rw [not_or, not_or] at htime
      obtain ⟨⟨hstamp, hdate⟩, hclock⟩ := htime
      rw [hwords, List.forall_mem_cons, List.forall_mem_append]
      refine ⟨hint, ?_, ?_⟩
      · intro word hword h
        exact hfloat ⟨word, hword, h⟩
      · simp only [List.forall_mem_cons]
        exact ⟨hbool, hstamp, hdate, hclock, List.forall_mem_nil _⟩
    exact iff_of_false (by decide) fun ⟨word, hword, h⟩ => hnone word hword h

end Kind

/-! ### Columns of a listed table

Columns are added one after another, so kinds and types are those of insertions into dictionaries.
-/

namespace Table

variable {schema name key : String} {columns : List ListedColumn} {t : Table} {c : ListedColumn}

/-- The kinds of a listed table are those of its columns, a later column over an earlier one of its
name. -/
theorem kinds_foldl (columns : List ListedColumn) (t : Table) :
    (columns.foldl addColumn t).kinds =
      t.kinds.insertMany (columns.map fun c => (c.name, .ofCatalogType c.dataType)) := by
  induction columns generalizing t with
  | nil => rfl
  | cons c columns ih =>
    rw [List.foldl_cons, ih]
    rfl

/-- So are its parameter types, for the columns that have one. -/
theorem parameterTypes_foldl (columns : List ListedColumn) (t : Table) :
    (columns.foldl addColumn t).parameterTypes =
      t.parameterTypes.insertMany
        (columns.filterMap fun c => c.parameterType?.map fun type => (c.name, type)) := by
  induction columns generalizing t with
  | nil => rfl
  | cons c columns ih =>
    rw [List.foldl_cons, ih, addColumn]
    cases hc : c.parameterType? with
    | none => rw [List.filterMap_cons_none (by rw [hc]; rfl)]
    | some type =>
      rw [List.filterMap_cons_some (by rw [hc]; rfl)]
      rfl

/-- A listed column, the only one of its name, has the kind and the parameter type that go by what
the catalog says of it. -/
theorem ofCatalog_spec {key? : Option String}
    (ht : ofCatalog schema name columns key? = .ok t) (hc : c ∈ columns)
    (honly : ∀ d ∈ columns, d.name = c.name → d = c) :
    t.kindOf? c.name = some (.ofCatalogType c.dataType) ∧
      ∀ type, c.parameterType? = some type → t.parameterType? c.name = some type := by
  have hempty : ¬ columns.isEmpty = true := by
    rw [List.isEmpty_iff]
    exact List.ne_nil_of_mem hc
  cases key? with
  | none =>
    rw [ofCatalog, if_neg hempty] at ht
    cases ht
  | some key =>
    rw [ofCatalog, if_neg hempty, ofColumns, if_neg hempty] at ht
    cases ht
    -- No other column has the name, so it does not matter which insertion is the last.
    constructor
    · refine (congrArg (·.get? c.name) (kinds_foldl columns _)).trans ?_
      apply Dict.get?_insertMany_of_forall
      · rw [List.forall_mem_map]
        intro d hd hname
        rw [honly d hd hname]
      · exact .inr (List.mem_map.2 ⟨c, hc, rfl⟩)
    · intro type htype
      refine (congrArg (·.get? c.name) (parameterTypes_foldl columns _)).trans ?_
      apply Dict.get?_insertMany_of_forall
      · intro e he hname
        obtain ⟨d, hd, hentry⟩ := List.mem_filterMap.1 he
        obtain ⟨type', htype', rfl⟩ := Option.map_eq_some_iff.1 hentry
        rw [honly d hd hname, htype] at htype'
        exact (Option.some.inj htype').symm
      · exact .inr (List.mem_filterMap.2 ⟨c, hc, by rw [htype]; rfl⟩)

end Table

/-! ### Types that are not named

Arrays and types of users are listed under a word in place of a name. Neither word is like that of a
scalar, so all types whose name is can be cast to. -/

/-- A type name without blanks is not changed by trimming. -/
theorem lower_trim_of_lower {s n : String} (h : lower s = n)
    (hn : (n.toList.any isBlank) = false) : lower (trim s) = n := by
  rw [List.any_eq_false] at hn
  have hs : ∀ c ∈ s.toList, isBlank c = false := by
    intro c hc
    rw [← Bool.not_eq_true]
    intro hblank
    have hmem : c ∈ n.toList := by
      rw [← h, lower, String.toList_ofList]
      exact mem_lowerFrom_of_blank hblank hc
    exact hn c hmem hblank
  rw [trim_of_visible hs, h]

/-- A type that is not on the list is one that parameters are cast to, if its name has a word of
scalars in it. -/
theorem exists_parameterType? {c : ListedColumn}
    (hnative : lower c.dataType ∉ ListedColumn.nativeTypes) (hnamed : Kind.NamesScalar c.dataType) :
    ∃ type, c.parameterType? = some type := by
  -- the two type names that a cast cannot be made of have none of the words in them
  have hnameable : ¬ (lower c.dataType = "array" ∨ lower c.dataType = "user-defined") := by
    rintro (h | h)
    · have htrim : lower (trim c.dataType) = "array" := lower_trim_of_lower h (by decide)
      rw [Kind.NamesScalar, htrim] at hnamed
      revert hnamed
      decide
    · have htrim : lower (trim c.dataType) = "user-defined" := lower_trim_of_lower h (by decide)
      rw [Kind.NamesScalar, htrim] at hnamed
      revert hnamed
      decide
  unfold ListedColumn.parameterType?
  dsimp only
  rw [if_neg (by simpa using hnative), if_neg hnameable]
  split
  · exact ⟨_, rfl⟩
  · split <;> exact ⟨_, rfl⟩

/-! ### What a kind does with values

A column that is cast should be sent texts. The kinds that are not scalar do so for every value;
each of the others has a value that it sends as something else, and a text that it refuses. -/

namespace Sql.Value

/-- Values that are bound as a text. -/
def BindsAsText : Value → Prop
  | .null kind => ¬ kind.IsScalar
  | .text _ => True
  | .json _ => True
  | _ => False

end Sql.Value

variable {kind : Kind}

/-- Any value is a document. -/
theorem exists_toDocument_eq (v : Json) : ∃ u, Coercion.toDocument v = .json u := by
  unfold Coercion.toDocument
  split
  · split <;> exact ⟨_, rfl⟩
  · exact ⟨v, rfl⟩

/-- A kind that is not scalar takes every text, and what it gives is bound as a text. -/
theorem coerce_of_not_isScalar (hkind : ¬ kind.IsScalar) :
    (∀ v w, coerce (some kind) v = .ok w → w.BindsAsText) ∧
      ∀ s, ∃ w, coerce (some kind) (.string s) = .ok w := by
  have hcases : kind = .string ∨ kind = .json := by
    rwa [Kind.IsScalar, not_and_or, not_not, not_not] at hkind
  obtain rfl | rfl := hcases
  · refine ⟨?_, fun s => ⟨.text s, rfl⟩⟩
    intro v w h
    cases v <;> cases h <;> first | exact hkind | exact trivial
  · refine ⟨?_, fun s => ⟨_, rfl⟩⟩
    intro v w h
    simp only [coerce, coerceTo] at h
    split at h
    next =>
      cases h
      exact hkind
    next =>
      obtain ⟨u, hu⟩ := exists_toDocument_eq v
      rw [hu] at h
      cases h
      exact trivial

/-- A scalar kind refuses some text, and gives some value that is not bound as one. -/
theorem coerce_of_isScalar (hkind : kind.IsScalar) :
    (∃ v w, coerce (some kind) v = .ok w ∧ w.isNull = false ∧ ¬ w.BindsAsText) ∧
      ∃ s cause, coerce (some kind) (.string s) = .error cause := by
  cases kind with
  | string => exact absurd rfl hkind.1
  | json => exact absurd rfl hkind.2
  | int =>
    exact ⟨⟨.number (.integer 0), .int 0, by decide +kernel, rfl, id⟩, "(", _, rfl⟩
  | float =>
    exact ⟨⟨.number (.integer 0), _, rfl, rfl, id⟩, "(", .notNumber, by decide +kernel⟩
  | bool => exact ⟨⟨.bool true, .bool true, rfl, rfl, id⟩, "(", .notBoolean, by decide +kernel⟩
  | datetime =>
    exact ⟨⟨.string "2000-01-01", .timestamp ⟨10957, 0, 0⟩, by decide +kernel, rfl, id⟩, "(",
      .notDatetime, by decide +kernel⟩

/-- To a column that has a type which parameters are cast to, only what is bound as a text is sent,
and every text is taken, if the name of its type has no word of scalars in it. If it has one, other
values are sent as well, and some text is refused; and every type with such a name that is not on
the list is one that parameters are cast to. -/
theorem Table.takesTexts_of_cast {schema name : String} {columns : List ListedColumn}
    {key? : Option String} {t : Table} {c : ListedColumn}
    (ht : ofCatalog schema name columns key? = .ok t) (hc : c ∈ columns)
    (honly : ∀ d ∈ columns, d.name = c.name → d = c) :
    (∀ type, t.parameterType? c.name = some type →
      (¬ Kind.NamesScalar c.dataType →
        (t.kindOf? c.name = some .string ∨ t.kindOf? c.name = some .json) ∧
        (∀ v w, coerce (t.kindOf? c.name) v = .ok w → w.BindsAsText) ∧
        ∀ s, ∃ w, coerce (t.kindOf? c.name) (.string s) = .ok w) ∧
      (Kind.NamesScalar c.dataType →
        (∃ kind, t.kindOf? c.name = some kind ∧ kind.IsScalar) ∧
        (∃ v w, coerce (t.kindOf? c.name) v = .ok w ∧ w.isNull = false ∧ ¬ w.BindsAsText) ∧
        ∃ s cause, coerce (t.kindOf? c.name) (.string s) = .error cause)) ∧
    (lower c.dataType ∉ ListedColumn.nativeTypes → Kind.NamesScalar c.dataType →
      ∃ type, t.parameterType? c.name = some type) := by
  obtain ⟨hkind, htype⟩ := ofCatalog_spec ht hc honly
  rw [hkind, ← Kind.isScalar_ofCatalogType_iff]
  constructor
  · intro _ _
    constructor
    · intro htext
      refine ⟨?_, coerce_of_not_isScalar htext⟩
      rw [Kind.IsScalar, not_and_or, not_not, not_not] at htext
      exact htext.imp (congrArg some) (congrArg some)
    · intro hscalar
      exact ⟨⟨_, rfl, hscalar⟩, coerce_of_isScalar hscalar⟩
  · intro hnative hscalar
    have hnamed := Kind.isScalar_ofCatalogType_iff.1 hscalar
    obtain ⟨type, hc⟩ := exists_parameterType? hnative hnamed
    exact ⟨type, htype type hc⟩

/-- A column of addresses takes every text, and one of points does not. -/
theorem Table.takesTexts_of_cast_inet :
    let columns : List ListedColumn :=
      [⟨"id", "integer", "pg_catalog", "int4"⟩, ⟨"ip", "inet", "pg_catalog", "inet"⟩,
        ⟨"spot", "point", "pg_catalog", "point"⟩]
    ∃ t, ofCatalog "public" "hosts" columns (some "id") = .ok t ∧
      t.parameterType? "ip" = some "inet" ∧
      (∀ s, ∃ w, coerce (t.kindOf? "ip") (.string s) = .ok w) ∧
      (∃ type, t.parameterType? "spot" = some type) ∧
      ∃ s cause, coerce (t.kindOf? "spot") (.string s) = .error cause := by
  intro columns
  obtain ⟨t, ht⟩ : ∃ t, ofCatalog "public" "hosts" columns (some "id") = .ok t := ⟨_, rfl⟩
  have hinet := takesTexts_of_cast ht (c := ⟨"ip", "inet", "pg_catalog", "inet"⟩) (by decide)
    (by decide)
  have hpoint := takesTexts_of_cast ht (c := ⟨"spot", "point", "pg_catalog", "point"⟩) (by decide)
    (by decide)
  have htype : t.parameterType? "ip" = some "inet" := by
    cases ht
    rfl
  have hnamed : ¬ Kind.NamesScalar "inet" := by
    unfold Kind.NamesScalar
    decide
  have hnamed' : Kind.NamesScalar "point" := by
    unfold Kind.NamesScalar
    decide
  obtain ⟨type, hspot⟩ := hpoint.2 (by decide) hnamed'
  exact ⟨t, ht, htype, ((hinet.1 _ htype).1 hnamed).2.2, ⟨type, hspot⟩,
    ((hpoint.1 type hspot).2 hnamed').2.2⟩

/-- Parameters for a point or a range are cast to its type, and yet are integers or times. -/
theorem Table.scalar_kinds_of_cast :
    let columns : List ListedColumn :=
      [⟨"id", "integer", "pg_catalog", "int4"⟩, ⟨"spot", "point", "pg_catalog", "point"⟩,
        ⟨"ages", "int4range", "pg_catalog", "int4range"⟩,
        ⟨"stay", "daterange", "pg_catalog", "daterange"⟩]
    ∃ t, ofCatalog "public" "places" columns (some "id") = .ok t ∧
      (t.parameterType? "spot" = some "point" ∧ t.kindOf? "spot" = some .int ∧
        coerce (t.kindOf? "spot") (.number (.integer 1)) = .ok (.int 1) ∧
        coerce (t.kindOf? "spot") (.string "(1,2)") = .error .notInteger) ∧
      (t.parameterType? "ages" = some "int4range" ∧ t.kindOf? "ages" = some .int ∧
        coerce (t.kindOf? "ages") (.string "[1,2]") = .error .notInteger) ∧
      t.parameterType? "stay" = some "daterange" ∧ t.kindOf? "stay" = some .datetime ∧
        coerce (t.kindOf? "stay") (.string "[2024-01-01,2024-02-01)") = .error .notDatetime := by
  intro columns
  exact ⟨_, rfl, by decide +kernel, by decide +kernel, by decide +kernel⟩

end TenantGate
