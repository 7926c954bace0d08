import TenantGate.Proofs.Coercion.Missing
import TenantGate.Proofs.Outcome
import TenantGate.Tenancy
/-!
# Scopes

What `Scope.ofTable` gives, said without it: `IsColumnOf` names the tenant column of a table, and
`ofTable_eq_ok_iff` reads a scope as that column with the tenant's text coerced to its kind. A
tenant is named by a text that is trimmed and not empty, so its coercion is never a missing value
(`isNull_of_ofTable`).
-/

namespace TenantGate

/-! ### Tenant columns

A tenant column can have two names, and the preferred one hides the other. This is the only place
where the two are told apart. -/

/-- The column is the tenant column of the table: one of its columns, and the preferred one or, in a
table that lacks it, the one for older tables. -/
def TenantNaming.IsColumnOf (n : TenantNaming) (t : Table) (column : String) : Prop :=
  column ∈ t.columns ∧
    (column = n.preferred ∨ n.preferred ∉ t.columns ∧ n.legacy = some column)

theorem Table.hasColumn_iff {t : Table} {column : String} :
    t.hasColumn column = true ↔ column ∈ t.columns := by
  simp [hasColumn]

/-- The tenant column that is looked for is the one there is. -/
theorem TenantNaming.columnOf?_eq_some_iff {n : TenantNaming} {t : Table} {column : String} :
    n.columnOf? t = some column ↔ n.IsColumnOf t column := by
  rw [columnOf?, IsColumnOf]
  -- if the table has the preferred column, the older name is not looked at
  split
  · next h =>
    rw [Table.hasColumn_iff] at h
    constructor
    · intro heq
      cases heq
      exact ⟨h, .inl rfl⟩
    · rintro ⟨-, rfl | ⟨hnot, -⟩⟩
      · rfl
      · exact absurd h hnot
  · next h =>
    rw [Table.hasColumn_iff] at h
    rw [Option.filter_eq_some_iff, Table.hasColumn_iff]
    constructor
    · rintro ⟨hl, hc⟩
      exact ⟨hc, .inr ⟨h, hl⟩⟩
    · rintro ⟨hc, rfl | ⟨-, hl⟩⟩
      · exact absurd hc h
      · exact ⟨hl, hc⟩

theorem TenantNaming.demandColumn_eq_ok_iff {n : TenantNaming} {t : Table} {column : String} :
    n.demandColumn t = .ok column ↔ n.IsColumnOf t column := by
  rw [← columnOf?_eq_some_iff, demandColumn]
  cases n.columnOf? t <;> simp

/-! ### The value

The name of the field goes into the failure only. -/

theorem coerceField_eq_ok_iff {name : String} {kind : Option Kind} {v : Json} {w : Sql.Value} :
    coerceField name kind v = .ok w ↔ coerce kind v = .ok w := by
  rw [coerceField]
  cases coerce kind v <;> simp

/-! ### The scope

A scope is made in two steps, the column and the value, and each can fail by itself. -/

/-- A scope is the tenant column and the tenant's text, coerced to that column's kind. -/
theorem Scope.ofTable_eq_ok_iff {t : Table} {n : TenantNaming} {tenant : Tenant} {scope : Scope} :
    Scope.ofTable t n tenant = .ok scope ↔
      n.IsColumnOf t scope.column ∧
        coerce (t.kindOf? scope.column) (.string tenant.text) = .ok scope.value := by
  simp only [Scope.ofTable, bind_eq_ok_iff, pure_eq_ok_iff, TenantNaming.demandColumn_eq_ok_iff,
    coerceField_eq_ok_iff]
  constructor
  · rintro ⟨column, hcolumn, v, hv, rfl⟩
    exact ⟨hcolumn, hv⟩
  · rintro ⟨hcolumn, hv⟩
    exact ⟨scope.column, hcolumn, scope.value, hv, rfl⟩

/-- The value of a scope is never missing. -/
theorem Scope.isNull_of_ofTable {t : Table} {n : TenantNaming} {tenant : Tenant} {scope : Scope}
    (h : Scope.ofTable t n tenant = .ok scope) : scope.value.isNull = false :=
  isNull_of_coerce_string tenant.trimmed tenant.nonempty (Scope.ofTable_eq_ok_iff.1 h).2

/-- A tenant is named by what is read of a text once it is trimmed. -/
theorem Tenant.text_of_read {raw : String} {tenant : Tenant} (h : Tenant.read raw = .ok tenant) :
    tenant.text = Text.trim raw := by
  rw [Tenant.read] at h
  split at h
  · cases h
  · cases h
    rfl

end TenantGate
