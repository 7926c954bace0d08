import TenantGate.DenyList
import TenantGate.Proofs.Outcome
import TenantGate.Proofs.Table.Name
/-!
# Deny lists

A name is trimmed and put in lower case in three places: when a deny list is read, when a name is
looked up on it, and when a table is looked up under the name. They agree, because the name of a
table is plain. So a deny list permits a name as it is written exactly if it permits the name that
is looked up (`permits_of_readName`), and it permits just what its text does not deny
(`permits_parse_iff`).
-/

namespace TenantGate

/-! ### Deny lists

The text of a deny list is cut at commas, and its items are trimmed and put in lower case as names
of tables are. A star denies every table. -/

namespace DenyList

/-- The list denies the table: an item of it is a star, or is the name of the table, where blanks
around a name and its letter case do not count. -/
def Denies (text raw : String) : Prop :=
  ∃ item ∈ Text.splitOn ',' text,
    Text.trim item = "*" ∨ Text.lower (Text.trim item) = Text.lower (Text.trim raw)

/-- The items of a comma list are its trimmed pieces, the blank ones left out. -/
theorem mem_commaList_iff {text item : String} :
    item ∈ Text.commaList text ↔
      item ≠ "" ∧ ∃ piece ∈ Text.splitOn ',' text, Text.trim piece = item := by
  rw [Text.commaList, List.mem_filter, List.mem_map, decide_eq_true_iff, and_comm]

/-- The list denies everything if one of its items is a star. -/
theorem everything_parse_iff {text : String} :
    (parse text).everything = true ↔ ∃ item ∈ Text.splitOn ',' text, Text.trim item = "*" := by
  rw [parse, List.contains_iff_mem, mem_commaList_iff]
  exact and_iff_right (by decide)

/-- The names on the list are those of the items, the star apart. -/
theorem contains_parse_iff {text name : String} (hname : name ≠ "") :
    (parse text).tables.contains name = true ↔
      ∃ item ∈ Text.splitOn ',' text, Text.trim item ≠ "*" ∧
        Text.lower (Text.trim item) = name := by
  rw [parse, List.contains_iff_mem, List.mem_map]
  constructor
  · rintro ⟨item, hitem, heq⟩
    obtain ⟨hmem, hnot⟩ := List.mem_filter.1 hitem
    obtain ⟨-, piece, hpiece, rfl⟩ := mem_commaList_iff.1 hmem
    exact ⟨piece, hpiece, of_decide_eq_true hnot, heq⟩
  · rintro ⟨item, hitem, hnot, rfl⟩
    -- an item that has a name is not blank
    have hne : Text.trim item ≠ "" := by
      intro hempty
      rw [hempty] at hname
      exact hname rfl
    exact ⟨Text.trim item, List.mem_filter.2 ⟨mem_commaList_iff.2 ⟨hne, item, hitem, rfl⟩,
      decide_eq_true hnot⟩, rfl⟩

/-- Whether a name is denied is looked up in two places: the star, and the set of names. -/
theorem denies_iff {text raw : String} (hname : Text.lower (Text.trim raw) ≠ "") :
    Denies text raw ↔ (parse text).everything = true ∨
      (parse text).tables.contains (Text.lower (Text.trim raw)) = true := by
  rw [everything_parse_iff, contains_parse_iff hname, Denies]
  constructor
  · rintro ⟨item, hitem, hdenies⟩
    by_cases hstar : Text.trim item = "*"
    · exact .inl ⟨item, hitem, hstar⟩
    · exact .inr ⟨item, hitem, hstar, hdenies.resolve_left hstar⟩
  · rintro (⟨item, hitem, hstar⟩ | ⟨item, hitem, -, heq⟩)
    · exact ⟨item, hitem, .inl hstar⟩
    · exact ⟨item, hitem, .inr heq⟩

/-- A name is permitted if it is not blank and the list does not deny it. -/
theorem permits_parse_iff {text raw : String} :
    (parse text).permits raw = true ↔ Text.trim raw ≠ "" ∧ ¬ Denies text raw := by
  by_cases hblank : Text.trim raw = ""
  · simp [permits, hblank, show Text.lower "" = "" from rfl]
  have hname := Text.lower_ne_empty hblank
  rw [and_iff_right hblank, denies_iff hname, permits]
  simp [hname]

/-- A list that permits the name of a table as it is written permits the name that is looked up. -/
theorem permits_of_readName (d : DenyList) {raw name : String} (h : Table.readName raw = .ok name) :
    d.permits name = d.permits raw := by
  rw [permits, permits, (Table.isPlainName_of_readName h).lower_trim,
    (Table.readName_eq_ok_iff.1 h).1]

/-- A permitted name is the name that is read, if the list permits it. -/
theorem permittedName_eq_ok_iff {d : DenyList} {raw name : String} :
    d.permittedName raw = .ok name ↔ Table.readName raw = .ok name ∧ d.permits name = true := by
  rw [permittedName, bind_eq_ok_iff]
  constructor
  · rintro ⟨name', hname, h⟩
    split at h
    next hpermits =>
      cases h
      exact ⟨hname, hpermits⟩
    next => cases h
  · rintro ⟨hname, hpermits⟩
    exact ⟨name, hname, if_pos hpermits⟩

end DenyList
end TenantGate
