import Mathlib.Data.List.Nodup
import TenantGate.Proofs.Dict
import TenantGate.Proofs.Table.Name
import TenantGate.Proofs.Text.Separated
import TenantGate.Table.Overlay
/-!
# Overlays that are written out

An overlay is written as one line for each part that it sets (`Setting`), in any order and among
lines that say nothing (`IsIdle`). What such a text says depends on its settings only
(`foldl_addLine_of_renders`), and settings of different parts can be made in either order
(`Setting.apply_comm`). So a text that renders an overlay is read as that overlay
(`parse_of_isWrittenAs`).
-/

namespace TenantGate

namespace Overlay

open Text

/-! ### Settings

An overlay is taken apart into its settings, so that the order in which they are written can be
spoken of. A dictionary is written as the list of its entries, which again may stand in any order.
-/

/-- An item before the first colon and an item after it. -/
def IsPair (e : String × String) : Prop := IsItem e.1 ∧ ':' ∉ e.1.toList ∧ IsItem e.2

instance : DecidablePred IsPair := fun e =>
  inferInstanceAs (Decidable (IsItem e.1 ∧ ':' ∉ e.1.toList ∧ IsItem e.2))

/-- Both with the colon between them. -/
def pairText (e : String × String) : String := e.1 ++ ":" ++ e.2

/-- One part of an overlay with what is said about it, the dictionaries as the list of the entries
that are written. -/
inductive Setting where
  | primaryKey (name : String)
  | timestamps (written : Bool)
  | writable (names : List String)
  | columns (names : List String)
  | aliases (entries : List (String × String))
  | kinds (entries : List (String × Kind))
  deriving DecidableEq

namespace Setting

/-- The key that a setting is written with. -/
def key : Setting → String
  | primaryKey _ => "primary_key"
  | timestamps _ => "timestamps"
  | writable _ => "fillable"
  | columns _ => "columns"
  | aliases _ => "aliases"
  | kinds _ => "casts"

/-- The value that a setting is written with. -/
def value : Setting → String
  | primaryKey name => name
  | timestamps written => if written then "true" else "false"
  | writable names => ",".intercalate names
  | columns names => ",".intercalate names
  | aliases entries => ",".intercalate (entries.map pairText)
  | kinds entries =>
    ",".intercalate (entries.map fun (column, kind) => pairText (column, kind.name))

/-- The line of a setting. -/
def line (s : Setting) : String := s.key ++ "=" ++ s.value

/-- The overlay with one part set. -/
def apply : Setting → Overlay → Overlay
  | primaryKey name, o => { o with primaryKey := some name }
  | timestamps written, o => { o with timestamps := some written }
  | writable names, o => { o with writable := names }
  | columns names, o => { o with columns := names }
  | aliases entries, o => { o with aliases := o.aliases.insertMany entries }
  | kinds entries, o => { o with kinds := o.kinds.insertMany entries }

/-- Settings that can be written: of names that are items, and before a colon without one. -/
def IsPlain : Setting → Prop
  | primaryKey name => IsItem name
  | timestamps _ => True
  | writable names => ∀ n ∈ names, IsItem n
  | columns names => ∀ n ∈ names, IsItem n
  | aliases entries => ∀ e ∈ entries, IsPair e
  | kinds entries => ∀ e ∈ entries, IsItem e.1 ∧ ':' ∉ e.1.toList

end Setting

/-! ### Lines that say nothing

Four kinds of lines are passed over or have no effect; between the lines of the settings there may
be any number of them. -/

/-- The keys that a setting can have. -/
def knownKeys : List String :=
  ["primary_key", "pk", "timestamps", "fillable", "columns", "aliases", "casts"]

/-- Blank lines, comments, lines without a sign of equality and lines with a key that is not
known. -/
inductive IsIdle (l : String) : Prop where
  | blank (h : IsBlankText l.toList)
  | comment {bs rest : List Char} (hbs : IsBlankText bs) (h : l.toList = bs ++ '#' :: rest)
  | slashes {bs rest : List Char} (hbs : IsBlankText bs) (h : l.toList = bs ++ '/' :: '/' :: rest)
  | noSign (h : '=' ∉ l.toList)
  | unknown {key value : String} (h : l = key ++ "=" ++ value) (hkey : '=' ∉ key.toList)
      (hunknown : lower (trim key) ∉ knownKeys)

/-- `Renders ss text`: the lines of the text are those of the settings, one after another, and idle
ones. -/
inductive Renders : List Setting → String → Prop where
  | nil : Renders [] ""
  | setting (s : Setting) {ss : List Setting} {e text : String} (he : IsLineEnd e)
      (h : Renders ss text) : Renders (s :: ss) (s.line ++ e ++ text)
  | idle {l : String} {ss : List Setting} {e text : String} (hl : IsIdle l)
      (hlineFeed : '\n' ∉ l.toList) (he : IsLineEnd e) (h : Renders ss text) :
      Renders ss (l ++ e ++ text)

/-! ### Reading a line

A line is read after it was trimmed, which does not move the first sign of equality. -/

theorem addLine_congr (o : Overlay) {l l' : String} (h : trim l = trim l') :
    o.addLine l = o.addLine l' := by
  rw [addLine, addLine, h]

theorem toList_trim_setting (key value : String) :
    (trim (key ++ "=" ++ value)).toList = trimStart key.toList ++ '=' :: trimEnd value.toList := by
  rw [trim, toList_between (c := '=') rfl, trimChars_append_cons (by decide), String.toList_ofList]

/-- A line with a sign of equality is a setting of what stands around the first one. -/
theorem addLine_append (o : Overlay) {key : String} (hkey : '=' ∉ key.toList) (value : String) :
    o.addLine (key ++ "=" ++ value) =
      if isSkipped (trim (key ++ "=" ++ value)) then o else o.set (trim key) (trim value) := by
  have hstart : '=' ∉ trimStart key.toList := by
    intro hmem
    exact hkey ((List.dropWhile_sublist isBlank).mem hmem)
  have hcut : splitOnce '=' (trim (key ++ "=" ++ value)) =
      some (String.ofList (trimStart key.toList), String.ofList (trimEnd value.toList)) := by
    rw [splitOnce, toList_trim_setting, splitOnceChars_append hstart]
    rfl
  have hname : trim (String.ofList (trimStart key.toList)) = trim key := by
    rw [trim, String.toList_ofList, trimChars_trimStart]
    rfl
  have hvalue : trim (String.ofList (trimEnd value.toList)) = trim value := by
    rw [trim, String.toList_ofList, trimChars_trimEnd]
    rfl
  simp only [addLine, hcut, hname, hvalue]

/-- A setting with an unknown key is no setting. -/
theorem set_of_not_known (o : Overlay) {key : String} (h : lower key ∉ knownKeys) (value : String) :
    o.set key value = o := by
  unfold set
  split <;> simp_all [knownKeys]

/-- An idle line changes nothing. -/
theorem IsIdle.addLine_eq {l : String} (hl : IsIdle l) (o : Overlay) : o.addLine l = o := by
  cases hl with
  | blank h =>
    rw [addLine, trim_eq_empty_iff.2 h]
    rfl
  | comment hbs h =>
    have hskipped : isSkipped (trim l) = true := by
      simp only [isSkipped, toList_trim_visible (by decide) hbs h]
    rw [addLine, hskipped, if_pos rfl]
  | @slashes bs rest hbs h =>
    have hend : trimEnd ('/' :: rest) = '/' :: trimEnd rest :=
      trimEnd_append_cons (by decide) [] rest
    have hskipped : isSkipped (trim l) = true := by
      simp only [isSkipped, toList_trim_visible (by decide) hbs h, hend]
    rw [addLine, hskipped, if_pos rfl]
  | noSign h => simp only [addLine, splitOnce_eq_none (not_mem_trim h), ite_self]
  | unknown h hkey hunknown => rw [h, addLine_append o hkey, set_of_not_known o hunknown, ite_self]

/-! ### Reading a setting

The known keys are plain names, which no mark of a comment begins; so their lines are always read.
-/

/-- The keys are lower-case words. -/
theorem isPlainName_of_known {key : String} (hkey : key ∈ knownKeys) : Sql.IsPlainName key := by
  have hknown : ∀ key ∈ knownKeys, Sql.isIdentifier (lower key) = true ∧ lower key = key := by
    decide +kernel
  obtain ⟨hident, hlower⟩ := hknown key hkey
  rw [← hlower]
  exact Sql.isPlainName_lower hident

/-- A text that begins with neither mark of a comment is read. -/
theorem isSkipped_of_toList {l : String} {c : Char} {cs : List Char} (h : l.toList = c :: cs)
    (hnumber : c ≠ '#') (hslash : c ≠ '/') : isSkipped l = false := by
  unfold isSkipped
  rw [h]
  split <;> simp_all

/-- A line that begins with a known key is not passed over. -/
theorem isSkipped_append {key : String} (hkey : key ∈ knownKeys) (value : String) :
    isSkipped (trim (key ++ "=" ++ value)) = false := by
  have hplain := isPlainName_of_known hkey
  have hchars := toList_trim_setting key value
  rw [trimStart_of_trim hplain.trim_eq] at hchars
  cases hstart : key.toList with
  | nil =>
    rw [hstart] at hchars
    exact isSkipped_of_toList hchars (by decide) (by decide)
  | cons c cs =>
    rw [hstart] at hchars
    have hc : c ∈ key.toList := by
      rw [hstart]
      exact List.mem_cons_self
    apply isSkipped_of_toList hchars
    · rintro rfl
      exact hplain.not_mem (by decide) hc
    · rintro rfl
      exact hplain.not_mem (by decide) hc

/-- A line with a known key makes its setting. -/
theorem addLine_known (o : Overlay) {key : String} (hkey : key ∈ knownKeys) (value : String) :
    o.addLine (key ++ "=" ++ value) = o.set key (trim value) := by
  have hplain := isPlainName_of_known hkey
  rw [addLine_append o (hplain.not_mem (by decide)), isSkipped_append hkey,
    if_neg Bool.false_ne_true, hplain.trim_eq]

theorem isItem_kindName (k : Kind) : IsItem k.name := by
  cases k <;> decide

theorem kindParse_name (k : Kind) : Kind.parse k.name = .ok k := by
  cases k <;> rfl

theorem IsPair.isItem {e : String × String} (he : IsPair e) : IsItem (pairText e) :=
  he.1.pair he.2.2

theorem isPair_of_kind {e : String × Kind} (he : IsItem e.1 ∧ ':' ∉ e.1.toList) :
    IsPair (e.1, e.2.name) :=
  ⟨he.1, he.2, isItem_kindName e.2⟩

/-- The pairs of a comma list are read back from it. -/
theorem pairs_intercalate {entries : List (String × String)} (h : ∀ e ∈ entries, IsPair e) :
    pairs (",".intercalate (entries.map pairText)) = entries := by
  have hitems : ∀ s ∈ entries.map pairText, IsItem s := by
    rw [List.forall_mem_map]
    intro e he
    exact (h e he).isItem
  rw [pairs, commaList_intercalate hitems, List.filterMap_map]
  refine (List.filterMap_congr ?_).trans List.filterMap_some
  intro e he
  obtain ⟨hname, hcolon, hvalue⟩ := h e he
  have hcut : splitOnce ':' (pairText e) = some e := splitOnce_between rfl hcolon e.2
  simp [hcut, hname.trimmed, hvalue.trimmed, hname.ne_empty, hvalue.ne_empty]

namespace Setting

variable {s : Setting}

theorem key_mem (s : Setting) : s.key ∈ knownKeys := by
  cases s <;> simp [key, knownKeys]

/-- The items of the list that a setting is written as. -/
def items : Setting → List String
  | primaryKey name => [name]
  | timestamps written => [if written then "true" else "false"]
  | writable names => names
  | columns names => names
  | aliases entries => entries.map pairText
  | kinds entries => entries.map fun (column, kind) => pairText (column, kind.name)

theorem value_eq (s : Setting) : s.value = ",".intercalate s.items := by
  cases s <;> simp [value, items]

/-- What a plain setting lists are items. -/
theorem isItem_of_mem_items (hs : s.IsPlain) : ∀ t ∈ s.items, IsItem t := by
  cases s with
  | primaryKey name => exact List.forall_mem_singleton.2 hs
  | timestamps written =>
    refine List.forall_mem_singleton.2 ?_
    cases written <;> decide
  | writable names => exact hs
  | columns names => exact hs
  | aliases entries =>
    rw [items, List.forall_mem_map]
    intro e he
    exact (hs e he).isItem
  | kinds entries =>
    rw [items, List.forall_mem_map]
    intro e he
    exact (isPair_of_kind (hs e he)).isItem

/-- What a plain setting is written as is read as that setting. -/
theorem set_value (hs : s.IsPlain) (o : Overlay) : o.set s.key s.value = s.apply o := by
  -- One case for each part of an overlay: the key finds the part, and the list is read back.
  cases s with
  | primaryKey name =>
    have hkey : lower "primary_key" = "primary_key" := by decide
    have hne : (primaryKey name).value ≠ "" := IsItem.ne_empty hs
    simp only [key, set, hkey, if_neg hne]
    rfl
  | timestamps written =>
    have hkey : lower "timestamps" = "timestamps" := by decide
    have hread : affirmations.contains (lower (timestamps written).value) = written := by
      cases written <;> decide
    simp only [key, set, hkey, hread, apply]
  | writable names =>
    have hkey : lower "fillable" = "fillable" := by decide
    simp only [key, set, hkey, value, commaList_intercalate hs, apply]
  | columns names =>
    have hkey : lower "columns" = "columns" := by decide
    simp only [key, set, hkey, value, commaList_intercalate hs, apply]
  | aliases entries =>
    have hkey : lower "aliases" = "aliases" := by decide
    simp only [key, set, hkey, value, pairs_intercalate hs, apply]
  | kinds entries =>
    have hkey : lower "casts" = "casts" := by decide
    have hpairs : pairs (kinds entries).value = entries.map fun e => (e.1, e.2.name) := by
      rw [← pairs_intercalate (List.forall_mem_map.2 fun e he => isPair_of_kind (hs e he)),
        List.map_map]
      rfl
    simp only [key, set, hkey, hpairs, List.filterMap_map, Function.comp_def, kindParse_name, apply]
    exact congrArg (fun l => { o with kinds := o.kinds.insertMany l }) List.filterMap_some

/-- The line of a plain setting makes that setting. -/
theorem addLine_line (hs : s.IsPlain) (o : Overlay) : o.addLine s.line = s.apply o := by
  have htrim : trim s.value = s.value := by
    rw [value_eq, trim_intercalate (isItem_of_mem_items hs)]
  rw [line, addLine_known o s.key_mem, htrim, set_value hs]

/-- A plain setting is written on one line. -/
theorem lineFeed_not_mem_line (hs : s.IsPlain) : '\n' ∉ s.line.toList := by
  have hkey : '\n' ∉ s.key.toList := (isPlainName_of_known s.key_mem).not_mem (by decide)
  have hvalue : '\n' ∉ s.value.toList := by
    rw [value_eq]
    exact lineFeed_not_mem_intercalate (isItem_of_mem_items hs)
  simp only [line, String.toList_append, List.mem_append, not_or]
  exact ⟨⟨hkey, by decide⟩, hvalue⟩

/-- Settings of different parts can be made in either order. -/
theorem apply_comm {s s' : Setting} (h : s.key ≠ s'.key) (o : Overlay) :
    s'.apply (s.apply o) = s.apply (s'.apply o) := by
  cases s <;> cases s' <;> first | rfl | exact absurd rfl h

end Setting

/-! ### Reading a text

The lines of a rendered text are read one after another; the induction is on how it was rendered. -/

/-- A text says what its settings say, one after another. -/
theorem foldl_addLine_of_renders {ss : List Setting} {text : String} (h : Renders ss text)
    (hplain : ∀ s ∈ ss, s.IsPlain) (o : Overlay) :
    (lines text).foldl addLine o = ss.foldl (fun o s => s.apply o) o := by
  induction h generalizing o with
  | nil => rfl
  | setting s he _ ih =>
    obtain ⟨hs, hplain⟩ := List.forall_mem_cons.1 hplain
    obtain ⟨first, htrim, hlines⟩ := exists_lines_append (s.lineFeed_not_mem_line hs) he _
    rw [hlines, List.foldl_cons, List.foldl_cons, addLine_congr o htrim, s.addLine_line hs,
      ih hplain]
  | idle hl hlineFeed he _ ih =>
    obtain ⟨first, htrim, hlines⟩ := exists_lines_append hlineFeed he _
    rw [hlines, List.foldl_cons, addLine_congr o htrim, hl.addLine_eq, ih hplain]

/-! ### Writing an overlay

The settings of an overlay, and the orders they may be written in. As no part is set twice, all
orders come to the same. -/

/-- An overlay that can be written: the names in it are items, and those before a colon are without
one. -/
structure IsPlain (o : Overlay) : Prop where
  primaryKey : ∀ name, o.primaryKey = some name → IsItem name
  writable : ∀ name ∈ o.writable, IsItem name
  columns : ∀ name ∈ o.columns, IsItem name
  aliases : ∀ e ∈ o.aliases.entries, IsPair e
  kinds : ∀ e ∈ o.kinds.entries, IsItem e.1 ∧ ':' ∉ e.1.toList

/-- The setting of a list, unless that is empty. -/
def settingOf {α : Type} (setting : List α → Setting) (l : List α) : List Setting :=
  if l.isEmpty then [] else [setting l]

/-- The settings of the parts that an overlay sets, with the entries of its dictionaries in the
order given. -/
def settings (o : Overlay) (aliases : List (String × String)) (kinds : List (String × Kind)) :
    List Setting :=
  (o.primaryKey.map .primaryKey).toList ++ (o.timestamps.map .timestamps).toList ++
    settingOf .writable o.writable ++ settingOf .columns o.columns ++
    settingOf .aliases aliases ++ settingOf .kinds kinds

/-- An overlay is written as settings if these are the settings of its parts in some order, and the
entries of its dictionaries stand in some order. -/
def IsWrittenAs (o : Overlay) (ss : List Setting) : Prop :=
  ∃ aliases kinds, aliases.Perm o.aliases.entries ∧ kinds.Perm o.kinds.entries ∧
    ss.Perm (o.settings aliases kinds)

/-- Such a setting is that of the list. -/
theorem mem_settingOf {α : Type} {setting : List α → Setting} {l : List α} {s : Setting}
    (h : s ∈ settingOf setting l) : s = setting l := by
  unfold settingOf at h
  split at h
  · cases h
  · exact List.mem_singleton.1 h

/-- Such a setting is made once at most. -/
theorem keys_settingOf {α : Type} (setting : List α → Setting) (l : List α) :
    ((settingOf setting l).map Setting.key).Sublist [(setting l).key] := by
  unfold settingOf
  split
  · exact List.nil_sublist _
  · exact List.Sublist.refl _

/-- To leave an empty list out changes nothing, if to set it does not. -/
theorem foldl_settingOf {α : Type} (setting : List α → Setting) (l : List α) {o : Overlay}
    (h : (setting []).apply o = o) :
    (settingOf setting l).foldl (fun o s => s.apply o) o = (setting l).apply o := by
  cases l with
  | nil => exact h.symm
  | cons e l => rfl

section Settings

variable {o : Overlay} {aliases : List (String × String)} {kinds : List (String × Kind)}

/-- The settings of a plain overlay are plain. -/
theorem isPlain_of_mem_settings (ho : o.IsPlain) (haliases : aliases.Perm o.aliases.entries)
    (hkinds : kinds.Perm o.kinds.entries) : ∀ s ∈ o.settings aliases kinds, s.IsPlain := by
  intro s hs
  simp only [settings, List.mem_append, Option.mem_toList, Option.map_eq_some_iff] at hs
  obtain ((((⟨name, hname, rfl⟩ | ⟨written, -, rfl⟩) | hs) | hs) | hs) | hs := hs
  · exact ho.primaryKey name hname
  · trivial
  · rw [mem_settingOf hs]
    exact ho.writable
  · rw [mem_settingOf hs]
    exact ho.columns
  · rw [mem_settingOf hs]
    intro e he
    exact ho.aliases e (haliases.mem_iff.1 he)
  · rw [mem_settingOf hs]
    intro e he
    exact ho.kinds e (hkinds.mem_iff.1 he)

/-- No part is set twice. -/
theorem nodup_keys_settings : ((o.settings aliases kinds).map Setting.key).Nodup := by
  have hprimaryKey : ((o.primaryKey.map Setting.primaryKey).toList.map Setting.key).Sublist
      ["primary_key"] := by
    cases o.primaryKey with
    | none => exact List.nil_sublist _
    | some name => exact List.Sublist.refl _
  have htimestamps : ((o.timestamps.map Setting.timestamps).toList.map Setting.key).Sublist
      ["timestamps"] := by
    cases o.timestamps with
    | none => exact List.nil_sublist _
    | some written => exact List.Sublist.refl _
  -- The keys of the settings are some of the six, in their order.
  have hkeys := ((((hprimaryKey.append htimestamps).append
    (keys_settingOf .writable o.writable)).append (keys_settingOf .columns o.columns)).append
    (keys_settingOf .aliases aliases)).append (keys_settingOf .kinds kinds)
  simp only [← List.map_append] at hkeys
  have hdistinct :
      ["primary_key", "timestamps", "fillable", "columns", "aliases", "casts"].Nodup := by decide
  exact hdistinct.sublist hkeys

/-- The settings of an overlay make it up. -/
theorem foldl_settings (haliases : aliases.Perm o.aliases.entries)
    (hkinds : kinds.Perm o.kinds.entries) :
    (o.settings aliases kinds).foldl (fun o s => s.apply o) {} = o := by
  have hprimaryKey : (o.primaryKey.map Setting.primaryKey).toList.foldl (fun o s => s.apply o) {} =
      ({ primaryKey := o.primaryKey } : Overlay) := by
    cases o.primaryKey <;> rfl
  have htimestamps : (o.timestamps.map Setting.timestamps).toList.foldl (fun o s => s.apply o)
      { primaryKey := o.primaryKey } =
        ({ primaryKey := o.primaryKey, timestamps := o.timestamps } : Overlay) := by
    cases o.timestamps <;> rfl
  simp only [settings, List.foldl_append]
  rw [hprimaryKey, htimestamps, foldl_settingOf .writable, foldl_settingOf .columns,
    foldl_settingOf .aliases, foldl_settingOf .kinds]
  · simp only [Setting.apply, Dict.insertMany_perm_entries haliases,
      Dict.insertMany_perm_entries hkinds]
  all_goals rfl

end Settings

/-- A text that renders the settings of an overlay, in any order and among idle lines, is read as
that overlay. -/
theorem parse_of_isWrittenAs {o : Overlay} (ho : o.IsPlain) {ss : List Setting}
    (hss : o.IsWrittenAs ss) {text : String} (htext : Renders ss text) : parse text = o := by
  obtain ⟨aliases, kinds, haliases, hkinds, hperm⟩ := hss
  have hplain : ∀ s ∈ ss, s.IsPlain := by
    intro s hs
    exact isPlain_of_mem_settings ho haliases hkinds s (hperm.mem_iff.1 hs)
  -- two settings of one part are the same one, because no part is set twice
  have hcomm : ∀ s ∈ ss, ∀ s' ∈ ss, ∀ o : Overlay, s'.apply (s.apply o) = s.apply (s'.apply o) := by
    intro s hs s' hs' o
    by_cases hkey : s.key = s'.key
    · rw [List.inj_on_of_nodup_map ((hperm.map _).nodup_iff.2 nodup_keys_settings) hs hs' hkey]
    · exact Setting.apply_comm hkey o
  calc parse text = ss.foldl (fun o s => s.apply o) {} := foldl_addLine_of_renders htext hplain {}
    _ = (o.settings aliases kinds).foldl (fun o s => s.apply o) {} := hperm.foldl_eq' hcomm _
    _ = o := foldl_settings haliases hkinds

/-- Names with signs in them, entries and settings out of order, and an idle line of each form. -/
theorem parse_of_isWrittenAs_signs :
    let o : Overlay :=
      { primaryKey := some "a=b # c", timestamps := some false, columns := ["//", "na me"],
        aliases := .ofList [("=", "x:y"), ("e#", "b")],
        kinds := .ofList [("at", .datetime), ("id", .int)] }
    let text := "# units\r\ncasts=id:int,at:datetime\n \t\naliases=e#:b,=:x:y\r\nno sign\n" ++
      "Owner = x, y\ntimestamps=false\n  // columns=id\r\ncolumns=//,na me\n" ++
      "primary_key=a=b # c\r\n"
    o.IsPlain ∧ (∃ ss, o.IsWrittenAs ss ∧ Renders ss text) ∧ parse text = o := by
  intro o text
  have ho : o.IsPlain := by
    refine ⟨?_, by decide, by decide +kernel, by decide +kernel, by decide +kernel⟩
    rintro _ ⟨⟩
    decide +kernel
  let ss : List Setting :=
    [.kinds [("id", .int), ("at", .datetime)], .aliases [("e#", "b"), ("=", "x:y")],
      .timestamps false, .columns ["//", "na me"], .primaryKey "a=b # c"]
  have hss : o.IsWrittenAs ss :=
    ⟨[("e#", "b"), ("=", "x:y")], [("id", .int), ("at", .datetime)], by decide +kernel,
      by decide +kernel, by decide +kernel⟩
  have hcomment : IsIdle "# units" := @IsIdle.comment _ [] " units".toList .nil (by decide)
  have hblank : IsIdle " \t" := .blank (isBlankText_iff.2 (by decide))
  have hnoSign : IsIdle "no sign" := .noSign (by decide)
  have hunknown : IsIdle "Owner = x, y" :=
    @IsIdle.unknown _ "Owner " " x, y" (by decide) (by decide) (by decide +kernel)
  have hslashes : IsIdle "  // columns=id" :=
    @IsIdle.slashes _ [' ', ' '] " columns=id".toList (isBlankText_iff.2 (by decide)) (by decide)
  have hlf : IsLineEnd "\n" := .inl rfl
  have hcrlf : IsLineEnd "\r\n" := .inr rfl
  obtain ⟨written, hwritten, heq⟩ : ∃ written, Renders ss written ∧ written = text :=
    ⟨_, .idle hcomment (by decide) hcrlf <| .setting _ hlf <| .idle hblank (by decide) hlf <|
      .setting _ hcrlf <| .idle hnoSign (by decide) hlf <| .idle hunknown (by decide) hlf <|
      .setting _ hlf <| .idle hslashes (by decide) hcrlf <| .setting _ hlf <|
      .setting _ hcrlf .nil, by decide +kernel⟩
  rw [heq] at hwritten
  exact ⟨ho, ⟨ss, hss, hwritten⟩, parse_of_isWrittenAs ho hss hwritten⟩

end Overlay
end TenantGate
