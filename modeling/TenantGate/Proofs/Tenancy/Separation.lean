import TenantGate.Proofs.Coercion.Numeral
import TenantGate.Proofs.Data.Interpretation
import TenantGate.Proofs.Number.Binary64
import TenantGate.Proofs.Table.Statements
import TenantGate.Proofs.Tenancy.Scope
import TenantGate.Table.Catalog
/-!
# Tenants that are numbers

Tenants named by different integers have different scopes in a table, unless its tenant column is
one of doubles and both integers are rounded to the same double. That takes integers of a magnitude
of `2 ^ 53` or more (`Scope.values_of_ofInt`), and then it happens
(`Scope.values_of_ofInt_rounded`).
-/

namespace TenantGate

open Sql Data

/-- The tenant that an integer names. -/
def Tenant.ofInt (i : Int) : Tenant :=
  ⟨Number.intText i, Number.trim_intText i, Number.intText_ne_empty i⟩

namespace Data.Interpretation

variable {Datum : Type} {I : Interpretation Datum}

/-- Different values stay different when they are bound with one type, and equality tells them
apart. -/
structure TellsApart (I : Interpretation Datum) : Prop where
  equal : ∀ x y, I.compare .equal x y = true ↔ x = y
  cast : ∀ {v w : Value} {castTo : Option String} {x : Datum},
    I.cast ⟨v, castTo⟩ = some x → I.cast ⟨w, castTo⟩ = some x → v = w

/-- A row that has a value does not have another one in the same column. -/
theorem TellsApart.eq_of_owns (hI : I.TellsApart) {column : String} {v w : Value}
    {castTo : Option String} {row : Row Datum} (hv : I.owns column ⟨v, castTo⟩ row = true)
    (hw : I.owns column ⟨w, castTo⟩ row = true) : v = w := by
  have held {u : Value} (hu : I.owns column ⟨u, castTo⟩ row = true) :
      ∃ x, row column = some x ∧ I.cast ⟨u, castTo⟩ = some x := by
    have hequal := of_decide_eq_true hu
    unfold comparison at hequal
    split at hequal
    next x y hx hy =>
      obtain rfl := (hI.equal x y).1 (Truth.ofBool_eq_yes.1 hequal)
      exact ⟨x, hx, hy⟩
    next => cases hequal
  obtain ⟨x, hx, hcast⟩ := held hv
  obtain ⟨y, hy, hcast'⟩ := held hw
  obtain rfl := Option.some.inj (hx.symm.trans hy)
  exact hI.cast hcast hcast'

end Data.Interpretation

namespace Scope

variable {t : Table} {n : TenantNaming} {i j : Int} {s s' : Scope}

/-- A table has one tenant column for all tenants. -/
theorem column_eq_of_ofTable {a b : Tenant} (hs : ofTable t n a = .ok s)
    (hs' : ofTable t n b = .ok s') : s.column = s'.column := by
  have hcolumn := TenantNaming.columnOf?_eq_some_iff.2 (ofTable_eq_ok_iff.1 hs).1
  rw [TenantNaming.columnOf?_eq_some_iff.2 (ofTable_eq_ok_iff.1 hs').1] at hcolumn
  exact (Option.some.inj hcolumn).symm

/-- The scopes of different integers have one value exactly where the column is of doubles and both
are rounded to the same one, which takes a magnitude of `2 ^ 53` or more of both. With different
values, no row that a statement of one tenant keeps is the other's. -/
theorem values_of_ofInt (hs : ofTable t n (.ofInt i) = .ok s)
    (hs' : ofTable t n (.ofInt j) = .ok s') (hne : i ≠ j) :
    (s.value = s'.value ↔
      t.kindOf? s.column = some .float ∧ Binary64.ofInt i = Binary64.ofInt j) ∧
    (s.value = s'.value → 2 ^ 53 ≤ i.natAbs ∧ 2 ^ 53 ≤ j.natAbs) ∧
    (s.value ≠ s'.value → ∀ {Datum : Type} (I : Interpretation Datum), I.TellsApart →
      ∀ (f : Filter) (row : Row Datum), f.Demands s.column (t.bound s) →
        I.keeps f [(none, row)] = true → I.owns s'.column (t.bound s') row = false) := by
  have hcolumn := column_eq_of_ofTable hs hs'
  obtain ⟨-, hi⟩ := ofTable_eq_ok_iff.1 hs
  obtain ⟨-, hj⟩ := ofTable_eq_ok_iff.1 hs'
  rw [← hcolumn] at hj
  -- an integer is read back from any other coercion, so one value for two of them means doubles
  have hiff : s.value = s'.value ↔
      t.kindOf? s.column = some .float ∧ Binary64.ofInt i = Binary64.ofInt j := by
    constructor
    · intro hvalue
      rw [← hvalue] at hj
      have hfloat : t.kindOf? s.column = some .float := by
        by_contra hkind
        exact hne (eq_of_coerce_intText hkind hi hj)
      rw [hfloat] at hi hj
      have hround := (coerce_float_intText hi).symm.trans (coerce_float_intText hj)
      exact ⟨hfloat, Value.float.inj hround⟩
    · rintro ⟨hfloat, hround⟩
      rw [hfloat] at hi hj
      rw [coerce_float_intText hi, coerce_float_intText hj, hround]
  refine ⟨hiff, ?_, ?_⟩
  · intro hvalue
    obtain ⟨-, hround⟩ := hiff.1 hvalue
    constructor
    · by_contra hlt
      exact hne (Binary64.eq_of_ofInt_eq (Nat.lt_of_not_le hlt) hround)
    · by_contra hlt
      exact hne (Binary64.eq_of_ofInt_eq (Nat.lt_of_not_le hlt) hround.symm).symm
  · intro hvalue Datum I hI f row hdemands hkeeps
    have howns := Interpretation.owns_of_keeps I hdemands hkeeps
    rw [← Bool.not_eq_true]
    intro howns'
    rw [← hcolumn, Table.bound, ← hcolumn] at howns'
    exact hvalue (hI.eq_of_owns howns howns')

/-- Up to `2 ^ 53` no two integers share a double: the last two of them. -/
theorem values_of_ofInt_last :
    let t : Table :=
      { schema := "public", name := "notes", primaryKey := "id", columns := ["id", "company_id"]
        kinds := .singleton "company_id" .float }
    let s : Scope := ⟨"company_id", .float ⟨0x433FFFFFFFFFFFFF⟩⟩
    let s' : Scope := ⟨"company_id", .float ⟨0x4340000000000000⟩⟩
    ofTable t .default (.ofInt 9007199254740991) = .ok s ∧
      ofTable t .default (.ofInt 9007199254740992) = .ok s' ∧ s.value ≠ s'.value := by
  intro t s s'
  have hs : ofTable t .default (.ofInt 9007199254740991) = .ok s := by decide +kernel
  have hs' : ofTable t .default (.ofInt 9007199254740992) = .ok s' := by decide +kernel
  obtain ⟨-, hlarge, -⟩ := values_of_ofInt hs hs' (by decide)
  refine ⟨hs, hs', ?_⟩
  intro hvalue
  exact absurd (hlarge hvalue).1 (by decide)

/-- In a column of the catalog type `numeric` two tenants have one scope. -/
theorem values_of_ofInt_rounded :
    let t : Table :=
      { schema := "public", name := "notes", primaryKey := "id", columns := ["id", "company_id"]
        kinds := .ofList [("id", .int), ("company_id", .float)]
        catalogTypes := .ofList [("id", "bigint"), ("company_id", "numeric")] }
    Table.ofCatalog "public" "notes"
        [⟨"id", "bigint", "pg_catalog", "int8"⟩, ⟨"company_id", "numeric", "pg_catalog", "numeric"⟩]
        (some "id") = .ok t ∧
      ∃ s, ofTable t .default (.ofInt 9007199254740992) = .ok s ∧
        ofTable t .default (.ofInt 9007199254740993) = .ok s := by
  intro t
  refine ⟨by decide +kernel, ⟨"company_id", .float ⟨0x4340000000000000⟩⟩, ?_⟩
  decide +kernel

end Scope
end TenantGate
