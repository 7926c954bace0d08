import TenantGate.Proofs.Coercion.Missing
import TenantGate.Proofs.Page.Filters
/-!
# Missing values in the filter of a page

A value is missing at two places: the request may give a JSON null, and the coercion makes nothing
of a text of blanks. The filter asks for no value only in the first case. In the second it compares
the column with a null that is bound, which no row equals (`equations_of_statements`).
-/

namespace TenantGate

open Sql

/-- An equation with a missing value. -/
def Sql.Condition.EquatesNull : Condition → Prop
  | .compare _ .equal b => b.value.isNull = true
  | _ => False

namespace Page

variable {t : Table} {scope : Scope} {r : Listing} {w : Window}

/-- How an entry of an equality filter is written and what it binds: nothing for a JSON null, and
otherwise what it is coerced to, even where that is a missing value. -/
def Renders (t : Table) (e : String × Json) (c : Condition) : Prop :=
  let column := t.resolve e.1
  if e.2.isNull then c.value? = none ∧ ∀ n, c.written n = quoteName column ++ " IS NULL"
  else
    ∃ v, coerce (t.kindOf? column) e.2 = .ok v ∧ c.value? = some v ∧
      ∀ n, c.written n = quoteName column ++ " = " ++ placeholder n (t.parameterType? column)

/-- The condition of an entry is rendered as the entry has it. -/
theorem AsksEqual.renders {e : String × Json} {c : Condition} (h : AsksEqual t e c) :
    Renders t e c := by
  obtain ⟨-, hc⟩ := h
  unfold Renders
  split at hc
  next hnull =>
    rw [if_pos hnull, hc]
    exact ⟨rfl, fun n => rfl⟩
  next hnull =>
    obtain ⟨v, hv, rfl⟩ := hc
    rw [if_neg hnull]
    exact ⟨v, hv, rfl, fun n => rfl⟩

/-- An entry makes an equation with a missing value exactly if it is a blank text. -/
theorem AsksEqual.equatesNull_iff {e : String × Json} {c : Condition} (h : AsksEqual t e c) :
    c.EquatesNull ↔ IsBlankFor (t.kindOf? (t.resolve e.1)) e.2 := by
  obtain ⟨-, hc⟩ := h
  split at hc
  next hnull =>
    obtain rfl := hc
    constructor
    · rintro ⟨⟩
    · rintro ⟨-, s, hs, -⟩
      rw [hs] at hnull
      cases hnull
  next hnull =>
    obtain ⟨v, hv, rfl⟩ := hc
    show v.isNull = true ↔ _
    rw [isNull_of_coerce_iff hv, or_iff_right hnull]

/-- A text filter makes no equation at all. -/
theorem AsksText.not_equatesNull {e : String × Json} {c : Condition} (h : AsksText t e c) :
    ¬ c.EquatesNull := by
  obtain ⟨-, rfl⟩ := h
  exact id

/-- The equations with a missing value that entries make are those of blank texts. -/
theorem AskedBy.equatesNull_iff {equal like : Dict Json} {cs : List Condition}
    (h : AskedBy t equal like cs) :
    (∃ c ∈ cs, c.EquatesNull) ↔
      ∃ e ∈ equal.entries, IsBlankFor (t.kindOf? (t.resolve e.1)) e.2 := by
  obtain ⟨equals, likes, hequals, hlikes, rfl⟩ := h
  rw [← exists_iff_of_forall₂ hequals fun _ _ => AsksEqual.equatesNull_iff]
  constructor
  · rintro ⟨c, hc, hnull⟩
    rcases List.mem_append.1 hc with hc | hc
    · exact ⟨c, hc, hnull⟩
    · obtain ⟨e, -, he⟩ := exists_of_forall₂ hlikes hc
      exact absurd hnull he.not_equatesNull
  · rintro ⟨c, hc, hnull⟩
    exact ⟨c, List.mem_append_left _ hc, hnull⟩

/-- In both statements of a page the entries of an equality filter and those of its alternatives are
rendered one by one, and those of a text filter make no equations. An equation with a missing value
comes from a blank text, or from the scope, and no scope of a tenant has one
(`Scope.isNull_of_ofTable`). -/
theorem equations_of_statements {s : Statements} (h : statements t scope r w = .ok s) :
    ∃ equals likes anyEquals anyLikes f,
      f = ⟨t.equals scope.column scope.value :: (equals ++ likes), anyEquals ++ anyLikes⟩ ∧
      s.page.filter? = some f ∧ s.total.filter? = some f ∧
      List.Forall₂ (Renders t) r.equal.entries equals ∧
      List.Forall₂ (Renders t) r.anyEqual.entries anyEquals ∧
      List.Forall₂ (AsksText t) (present r.like) likes ∧
      List.Forall₂ (AsksText t) (present r.anyLike) anyLikes ∧
      ((∃ c ∈ f.all ++ f.any, c.EquatesNull) ↔
        scope.value.isNull = true ∨
          ∃ e ∈ r.equal.entries ++ r.anyEqual.entries,
            IsBlankFor (t.kindOf? (t.resolve e.1)) e.2) := by
  obtain ⟨all, any, hrequired, halternatives, hfilter⟩ := exists_askedBy_of_statements h
  have hall := hrequired.equatesNull_iff
  have hany := halternatives.equatesNull_iff
  obtain ⟨columns, f, terms, -, -, -, rfl⟩ := statements_eq_ok_iff.1 h
  obtain ⟨equals, likes, hequals, hlikes, rfl⟩ := hrequired
  obtain ⟨anyEquals, anyLikes, hanyEquals, hanyLikes, rfl⟩ := halternatives
  refine ⟨equals, likes, anyEquals, anyLikes, f, hfilter, rfl, rfl,
    hequals.imp fun _ _ => AsksEqual.renders, hanyEquals.imp fun _ _ => AsksEqual.renders,
    hlikes, hanyLikes, ?_⟩
  -- the scope's condition, what is required beside it, and the alternatives
  obtain rfl : f = _ := hfilter
  rw [List.cons_append, List.exists_mem_cons_iff]
  simp only [List.mem_append, or_and_right, exists_or] at hall hany ⊢
  rw [hall, hany]
  rfl

/-- A JSON null among the alternatives asks for no value, and a blank text for a number is bound. -/
theorem equations_of_statements_blank :
    let t : Table :=
      { schema := "public", name := "notes", primaryKey := "id"
        columns := ["id", "title", "company_id"], kinds := .singleton "id" .int }
    let scope : Scope := ⟨"company_id", .text "12"⟩
    let r : Listing :=
      { equal := .ofList [("id", .string " "), ("title", .string " ")]
        anyEqual := .singleton "id" .null }
    let f : Filter :=
      ⟨[.compare ⟨none, "company_id"⟩ .equal ⟨.text "12", none⟩,
          .compare ⟨none, "id"⟩ .equal ⟨.null .int, none⟩,
          .compare ⟨none, "title"⟩ .equal ⟨.text " ", none⟩], [.isNull ⟨none, "id"⟩]⟩
    ∃ s, statements t scope r (r.window 25) = .ok s ∧ s.page.filter? = some f ∧
      ∃ c ∈ f.all ++ f.any, c.EquatesNull := by
  intro t scope r f
  have hmade : (statements t scope r (r.window 25)).toOption.map
      (fun s => s.page.filter?) = some (some f) := by
    decide +kernel
  obtain ⟨s, hs, hfilter⟩ := Option.map_eq_some_iff.1 hmade
  have hstatements := toOption_eq_some_iff.1 hs
  obtain ⟨_, _, _, _, f', -, hf', -, -, -, -, -, hiff⟩ := equations_of_statements hstatements
  obtain rfl : f = f' := Option.some.inj (hfilter.symm.trans hf')
  refine ⟨s, hstatements, hfilter, hiff.2 (.inr ?_)⟩
  exact ⟨("id", .string " "), by decide +kernel, by decide +kernel, " ", rfl, by decide +kernel⟩

/-- Two blanks for a number are coerced to no value, and yet both statements compare the column with
it, under the scope of a tenant. -/
theorem equations_of_blank_number :
    let t : Table :=
      { schema := "public", name := "notes", primaryKey := "id"
        columns := ["id", "title", "company_id"], kinds := .singleton "id" .int }
    let scope : Scope := ⟨"company_id", .text "12"⟩
    let r : Listing := { equal := .singleton "id" (.string "  ") }
    let clause : String := "WHERE \"company_id\" = $1 AND \"id\" = $2"
    Scope.ofTable t .default ⟨"12", by decide +kernel, by decide⟩ = .ok scope ∧
      coerce (t.kindOf? "id") (.string "  ") = .ok (.null .int) ∧
      ∃ s, statements t scope r (r.window 25) = .ok s ∧
        s.page.text = "SELECT \"id\", \"title\", \"company_id\" FROM \"public\".\"notes\" " ++
          clause ++ " LIMIT $3 OFFSET $4" ∧
        s.page.parameters = [.text "12", .null .int, .int 26, .int 0] ∧
        s.total.text = "SELECT COUNT(*) AS total FROM \"public\".\"notes\" " ++ clause ∧
        s.total.parameters = [.text "12", .null .int] := by
  intro t scope r clause
  refine ⟨by decide +kernel, by decide +kernel, ?_⟩
  have hmade : (statements t scope r (r.window 25)).toOption.map
      (fun s => (s.page.text, s.page.parameters, s.total.text, s.total.parameters)) =
      some ("SELECT \"id\", \"title\", \"company_id\" FROM \"public\".\"notes\" " ++
          clause ++ " LIMIT $3 OFFSET $4", [.text "12", .null .int, .int 26, .int 0],
        "SELECT COUNT(*) AS total FROM \"public\".\"notes\" " ++ clause,
        [.text "12", .null .int]) := by
    decide +kernel
  obtain ⟨s, hs, hmade⟩ := Option.map_eq_some_iff.1 hmade
  refine ⟨s, toOption_eq_some_iff.1 hs, ?_⟩
  simpa only [Prod.mk.injEq] using hmade

end Page
end TenantGate
