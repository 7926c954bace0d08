import TenantGate.Proofs.Dict
import TenantGate.Proofs.Sql.RowBinding
import TenantGate.Table.Statements
/-!
# Statements on rows within a scope

Each statement on a row that is made for a table and a scope is bound to the scope's value in the
scope's column (`Sql.Statement.BoundTo`).
-/

namespace TenantGate

open Sql

/-- What the statements of a scope are bound to. -/
def Table.bound (t : Table) (scope : Scope) : Bound := t.bind scope.column scope.value

namespace Table

variable (t : Table) (scope : Scope) (key : Value)

theorem demands_rowFilter :
    (t.rowFilter scope key).Demands scope.column (t.bound scope) :=
  List.mem_cons_self

/-- A record with the scope's value in the scope's column makes an insertion bound to it. -/
theorem boundTo_insertRow (r : Record) :
    (t.insertRow (r.insert scope.column scope.value)).BoundTo t.sqlName scope.column
      (t.bound scope) := by
  refine ⟨rfl, ?_⟩
  have hentries := Dict.filter_entries_eq (Dict.get?_insert_self r scope.column scope.value)
  have hcomp : (fun a : Assignment => decide (a.column = scope.column)) ∘
      (fun e : String × Value => (⟨e.1, t.bind e.1 e.2⟩ : Assignment)) =
      fun e => decide (e.1 = scope.column) := rfl
  show ((r.insert scope.column scope.value).entries.map fun e =>
    (⟨e.1, t.bind e.1 e.2⟩ : Assignment)).filter _ = _
  rw [List.filter_map, hcomp, hentries]
  rfl

theorem boundTo_selectRow :
    (t.selectRow scope key).BoundTo t.sqlName scope.column (t.bound scope) :=
  ⟨rfl, rfl, rfl, t.demands_rowFilter scope key⟩

theorem boundTo_deleteRow :
    (t.deleteRow scope key).BoundTo t.sqlName scope.column (t.bound scope) :=
  ⟨rfl, t.demands_rowFilter scope key⟩

/-- An update is bound also where it has nothing to assign and only asks for the row. -/
theorem boundTo_updateRow (r : Record) :
    (t.updateRow scope key r).BoundTo t.sqlName scope.column (t.bound scope) := by
  rw [updateRow]
  split
  · exact ⟨rfl, rfl, rfl, t.demands_rowFilter scope key⟩
  · refine ⟨rfl, t.demands_rowFilter scope key, ?_⟩
    intro a ha
    obtain ⟨⟨column, v⟩, he, rfl⟩ := List.mem_map.1 ha
    have hkept := (List.mem_filter.1 he).2
    simp only [decide_eq_true_eq] at hkept
    exact hkept.2

/-- Changing a row has a `WHERE` clause, whatever it assigns. -/
theorem filter?_updateRow (r : Record) :
    (t.updateRow scope key r).filter? = some (t.rowFilter scope key) := by
  rw [updateRow]
  split <;> rfl

end Table

end TenantGate
