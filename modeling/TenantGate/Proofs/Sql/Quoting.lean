import TenantGate.Proofs.Sql.Scan
/-!
# Names between quotes

A quoted name shows where it ends: the name that is read at the start of a text, and what follows
it, are those for which the text is the quoted name and the rest, and the rest does not begin with a
quote.

    readQuoted_eq_some_iff : readQuoted cs = some (s, rest) ↔
      cs = (quoteName s).toList ++ rest ∧ rest.head? ≠ some '"'

So different names are quoted differently, and so are different pairs of a schema and a table.
-/

namespace TenantGate.Sql

/-- The quoted name at the start of a text, and what follows it. -/
def readQuoted : List Char → Option (String × List Char)
  | '"' :: cs => (readName cs).map fun (s, rest) => (String.ofList s, rest)
  | _ => none

/-- A text begins with a quoted name exactly if it is that name as statements quote it, and the rest
does not go on with a quote. -/
theorem readQuoted_eq_some_iff {cs rest : List Char} {s : String} :
    readQuoted cs = some (s, rest) ↔
      cs = (quoteName s).toList ++ rest ∧ rest.head? ≠ some '"' := by
  rw [toList_quoteName_append]
  constructor
  · intro h
    unfold readQuoted at h
    split at h
    next cs =>
      obtain ⟨⟨s', rest'⟩, hname, heq⟩ := Option.map_eq_some_iff.1 h
      cases heq
      obtain ⟨rfl, hrest⟩ := readName_eq_some_iff.1 hname
      rw [String.toList_ofList]
      exact ⟨rfl, hrest⟩
    next => cases h
  · rintro ⟨rfl, hrest⟩
    rw [readQuoted, readName_eq_some_iff.2 ⟨rfl, hrest⟩, Option.map_some]
    exact congrArg (fun t => some (t, rest)) String.ofList_toList

/-- A doubled quote stands for one, and the last quote is not that of the name. -/
example : readQuoted "\"a\"\"\".\"b\"".toList = some ("a\"", ".\"b\"".toList) := by decide

/-- Different names are quoted differently. -/
theorem quoteName_inj {s t : String} : quoteName s = quoteName t ↔ s = t := by
  refine ⟨fun h => ?_, congrArg quoteName⟩
  have hread (u : String) : readQuoted (quoteName u).toList = some (u, []) :=
    readQuoted_eq_some_iff.2 ⟨(List.append_nil _).symm, by simp⟩
  have hs := hread s
  rw [h, hread t] at hs
  simpa using hs.symm

/-- A quoted name is read as that name, with whatever follows it left, exactly if no quote follows;
hence the quoted texts of two names, and the qualified names of two tables, are the same only if the
names are. -/
theorem quoteName_delimits :
    (∀ (s : String) (rest : List Char),
      readQuoted ((quoteName s).toList ++ rest) = some (s, rest) ↔ rest.head? ≠ some '"') ∧
    Function.Injective quoteName ∧
    ∀ a b c d : String, qualifiedName a b = qualifiedName c d ↔ a = c ∧ b = d := by
  refine ⟨fun s rest => ?_, fun s t h => quoteName_inj.1 h, fun a b c d => ⟨fun h => ?_, ?_⟩⟩
  · rw [readQuoted_eq_some_iff, and_iff_right rfl]
  · have hread (q s : String) : readQuoted (qualifiedName q s).toList =
        some (q, '.' :: (quoteName s).toList) := by
      rw [readQuoted_eq_some_iff]
      exact ⟨by simp [qualifiedName], by simp⟩
    have hab := hread a b
    rw [h, hread c d] at hab
    simp only [Option.some.injEq, Prod.mk.injEq, List.cons.injEq, true_and] at hab
    exact ⟨hab.1.symm, quoteName_inj.1 (String.toList_inj.1 hab.2.symm)⟩
  · rintro ⟨rfl, rfl⟩
    rfl

end TenantGate.Sql
