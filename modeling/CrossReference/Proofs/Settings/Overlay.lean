import CrossReference.Proofs.Folder.Writing
import CrossReference.Proofs.Settings.Edited
import CrossReference.Proofs.Toml.Assembly
import CrossReference.Settings.Store

set_option autoImplicit false

/-!
# Partial settings

An edited document gives the settings whose keys are left in it, and for all others the defaults:
`load_edited`.
-/
namespace CrossReference.Settings

open Toml (Entries Pair Section)

variable {s : Settings} {table key : String} {v : Toml.Setting} {kept : List (String × String)}
  {heading : List String} {cs : List Char} {steps : Nat} {pairs : List Pair}
  {sections : List Section} {entries entries' inner inner' : Entries}

def Fills (s : Settings) (table : String) (kept : List (String × String)) (inner : Entries) :
    Prop :=
  ∀ key v, s.setting? table key = some v →
    inner.get? key = if (table, key) ∈ kept then some (.value v.toToml) else none

/-- The entries of each table, empty where there is none, are the settings that are kept. -/
def Shows (s : Settings) (kept : List (String × String)) (entries : Entries) : Prop :=
  ∀ table, (s.tables.lookup table).isSome →
    ∃ inner, entries.below? table = some inner ∧ Fills s table kept inner

theorem fills_nil : Fills s table [] [] := fun _ _ _ => rfl

theorem shows_nil : Shows s [] [] := fun _ _ => ⟨[], rfl, fills_nil⟩

theorem Fills.changes (h : Fills s table kept inner) {keys : List String} (goesOn : keys ≠ [])
    (unknown : isUnknown (table :: keys)) (changes : Toml.ChangesAlong keys inner inner') :
    Fills s table kept inner' := by
  obtain ⟨first, more, rfl⟩ := List.exists_cons_of_ne_nil goesOn
  intro key v given
  have differs : key ≠ first := by
    rintro rfl
    rw [of_isUnknown_cons unknown] at given
    cases given
  rw [changes.1 key differs]
  exact h key v given

theorem Shows.changes (h : Shows s kept entries) {keys : List String} (unknown : isUnknown keys)
    (changes : Toml.ChangesAlong keys entries entries') : Shows s kept entries' := by
  intro table known
  obtain ⟨inner, here, fills⟩ := h table known
  cases keys with
  | nil => cases unknown
  | cons first more =>
    by_cases same : table = first
    · subst same
      have goesOn : more ≠ [] := by
        rintro rfl
        exact of_isUnknown_singleton unknown known
      obtain ⟨inner', here', inside⟩ := changes.2 goesOn inner here
      exact ⟨inner', here', fills.changes goesOn unknown inside⟩
    · exact ⟨inner, (Toml.below?_congr (changes.1 table same)).trans here, fills⟩

theorem Fills.congr (h : Fills s table kept inner) {kept' : List (String × String)}
    (same : ∀ key, (table, key) ∈ kept ↔ (table, key) ∈ kept') : Fills s table kept' inner := by
  intro key v given
  rw [h key v given]
  simp only [same]

theorem Fills.addPair (h : Fills s table kept inner) (given : s.setting? table key = some v)
    (added : Toml.addPair key v.toToml [] inner = some inner') :
    Fills s table (kept ++ [(table, key)]) inner' := by
  rw [Toml.addPair] at added
  split at added
  · cases added
    intro other w given'
    by_cases same : other = key
    · subst same
      obtain rfl := Option.some.inj (given.symm.trans given')
      rw [Toml.get?_put_self, if_pos (List.mem_append_right _ List.mem_cons_self)]
    · rw [Toml.get?_put_of_ne _ _ same, h other w given']
      simp [same]
  · cases added

theorem Given.fills (h : Given s [table] pairs kept) {before : List (String × String)}
    (fills : Fills s table before inner) (added : Toml.addPairs inner pairs = some inner') :
    Fills s table (before ++ kept) inner' := by
  induction h generalizing before inner with
  | nothing =>
    cases added
    rwa [List.append_nil]
  | setting below given _ ih =>
    cases below
    obtain ⟨next, here, later⟩ := Toml.addPairs_cons added
    rw [List.append_cons]
    exact ih (fills.addPair given here) later
  | other unknown _ ih =>
    obtain ⟨next, here, later⟩ := Toml.addPairs_cons added
    exact ih (fills.changes (by simp) unknown (Toml.addPair_changes here)) later

theorem Given.shows (h : Given s [] pairs kept) {before : List (String × String)}
    (shown : Shows s before entries) (added : Toml.addPairs entries pairs = some entries') :
    Shows s before entries' := by
  induction h generalizing entries with
  | nothing =>
    cases added
    exact shown
  | setting below => cases below
  | other unknown _ ih =>
    obtain ⟨next, here, later⟩ := Toml.addPairs_cons added
    exact ih (shown.changes unknown (Toml.addPair_changes here)) later

theorem Shows.addTo (h : Shows s kept entries) {here : List (String × String)}
    (known : (s.tables.lookup table).isSome) (given : Given s [table] pairs here)
    (added : Section.addTo ⟨false, [], table, pairs⟩ entries = some entries') :
    Shows s (kept ++ here) entries' := by
  intro other known'
  obtain ⟨inner, below, fills⟩ := h other known'
  by_cases same : other = table
  · subst same
    obtain ⟨inner', inside, below'⟩ := Toml.addTo_below rfl below added
    exact ⟨inner', below', given.fills fills inside⟩
  · have unchanged := (Toml.addTo_changes added).1 other same
    refine ⟨inner, (Toml.below?_congr unchanged).trans below, fills.congr fun key => ?_⟩
    have elsewhere : (other, key) ∉ here := fun inside => same (given.table_eq _ inside)
    simp [elsewhere]

theorem GivenTables.shows (h : GivenTables s sections kept) {before : List (String × String)}
    (shown : Shows s before entries)
    (added : sections.foldlM (fun entries s => Toml.changeAt s.addTo s.path entries) entries =
      some entries') : Shows s (before ++ kept) entries' := by
  induction h generalizing before entries with
  | nothing =>
    cases added
    rwa [List.append_nil]
  | table known given _ ih =>
    rw [List.foldlM_cons] at added
    obtain ⟨next, here, later⟩ := Option.bind_eq_some_iff.mp added
    rw [← List.append_assoc]
    exact ih (shown.addTo known given here) later
  | other unknown _ ih =>
    rw [List.foldlM_cons] at added
    obtain ⟨next, here, later⟩ := Option.bind_eq_some_iff.mp added
    have changes := Toml.changeAt_changes (fun _ _ => Toml.addTo_changes) here
    exact ih (shown.changes unknown changes) later

theorem Edited.shows (h : Edited s [] cs kept)
    (read : Toml.lines? steps cs = some (pairs, sections))
    (put : Toml.assemble pairs sections = some entries) : Shows s kept entries := by
  obtain ⟨here, later, rfl, inside, behind⟩ := h.given read
  obtain ⟨first, added, more⟩ := Option.bind_eq_some_iff.mp put
  obtain rfl := inside.eq_nil (.inl rfl)
  exact behind.shows (inside.shows shows_nil added) more

def overlay (s : Settings) (kept : List (String × String)) : Settings where
  analysis :=
    { strict := if ("analysis", "strict") ∈ kept then s.analysis.strict
        else ({} : AnalysisSettings).strict
      label := if ("analysis", "label") ∈ kept then s.analysis.label
        else ({} : AnalysisSettings).label
      excerptWidth := if ("analysis", "excerpt_width") ∈ kept then s.analysis.excerptWidth
        else ({} : AnalysisSettings).excerptWidth }
  palette :=
    { reference := if ("palette", "reference") ∈ kept then s.palette.reference
        else ({} : Palette).reference
      callCallee := if ("palette", "call_callee") ∈ kept then s.palette.callCallee
        else ({} : Palette).callCallee
      callArgumentBinding :=
        if ("palette", "call_argument_binding") ∈ kept then s.palette.callArgumentBinding
        else ({} : Palette).callArgumentBinding
      valueAssignment := if ("palette", "value_assignment") ∈ kept then s.palette.valueAssignment
        else ({} : Palette).valueAssignment
      returnArgument := if ("palette", "return_argument") ∈ kept then s.palette.returnArgument
        else ({} : Palette).returnArgument }
  server :=
    { port := if ("server", "port") ∈ kept then s.server.port else ({} : ServerSettings).port }

theorem setting?_overlay (s : Settings) (kept : List (String × String)) (table key : String) :
    (s.overlay kept).setting? table key =
      if (table, key) ∈ kept then s.setting? table key else ({} : Settings).setting? table key := by
  cases given : s.setting? table key with
  | none =>
    have absent (s' : Settings) : s'.setting? table key = none := by
      rw [← Option.not_isSome_iff_eq_none, isSome_setting? s' s, given]
      exact nofun
    rw [absent, absent, ite_self]
  | some v =>
    have inside := mem_keysOf_of_setting? given
    rw [← given]
    simp only [keysOf, tables, List.flatMap_cons, List.flatMap_nil, List.map_cons, List.map_nil,
      List.cons_append, List.nil_append, List.mem_cons, List.not_mem_nil, or_false,
      Prod.mk.injEq] at inside
    rcases inside with ⟨rfl, rfl⟩ | ⟨rfl, rfl⟩ | ⟨rfl, rfl⟩ | ⟨rfl, rfl⟩ | ⟨rfl, rfl⟩ | ⟨rfl, rfl⟩ |
      ⟨rfl, rfl⟩ | ⟨rfl, rfl⟩ | ⟨rfl, rfl⟩
    all_goals
      split
      · next here =>
        simp only [overlay, if_pos here]
        rfl
      · next gone =>
        simp only [overlay, if_neg gone]
        rfl

section

variable {α : Type} {x : α}

theorem optional_below (read : Toml → Option α) (fallback : α)
    (below : entries.below? key = some inner) (empty : read (.table []) = some fallback) :
    Toml.optional fallback read ((Toml.entriesToToml entries).lookup key) =
      read (.table (Toml.entriesToToml inner)) := by
  rw [Toml.lookup_entriesToToml]
  rw [Entries.below?] at below
  split at below
  · next absent =>
    cases below
    rw [absent, Toml.entriesToToml, empty]
    rfl
  · next found =>
    cases below
    rw [found, Option.map_some, Toml.Entry.toToml]
    rfl
  · cases below

theorem Fills.optional (h : Fills s table kept inner) (key : String) (read : Toml → Option α)
    (fallback : α) (given : s.setting? table key = some v) (reads : read v.toToml = some x) :
    Toml.optional fallback read ((Toml.entriesToToml inner).lookup key) =
      some (if (table, key) ∈ kept then x else fallback) := by
  rw [Toml.lookup_entriesToToml, h key v given]
  split
  · exact reads
  · rfl

end

theorem Fills.analysis (h : Fills s "analysis" kept inner) :
    AnalysisSettings.ofToml? (.table (Toml.entriesToToml inner)) =
      some (s.overlay kept).analysis := by
  have small := Toml.naturalBelow?_natCast s.analysis.excerptWidth.toNat_lt_size
  have strict := h.optional "strict" Toml.bool? true rfl rfl
  have label := h.optional "label" (fun v => v.choice?.bind LabelMode.ofName?) .id rfl
    (LabelMode.ofName?_name _)
  have width := h.optional "excerpt_width" (fun v => (v.naturalBelow? UInt64.size).map UInt64.ofNat)
    24 rfl (by rw [Toml.Setting.toToml, small, Option.map_some, UInt64.ofNat_toNat])
  simp only [AnalysisSettings.ofToml?, Toml.fields?, List.map_cons, List.map_nil,
    Option.bind_eq_bind, Option.bind_some, List.getD_cons_zero, List.getD_cons_succ]
  rw [strict, label, width]
  rfl

theorem Fills.palette (h : Fills s "palette" kept inner) :
    Palette.ofToml? (.table (Toml.entriesToToml inner)) = some (s.overlay kept).palette := by
  have color (key : String) (r : Relation) {text : String}
      (given : s.setting? "palette" key = some (.text text)) :=
    h.optional key Toml.text? r.defaultColor given rfl
  simp only [Palette.ofToml?, Toml.fields?, List.map_cons, List.map_nil,
    Option.bind_eq_bind, Option.bind_some, List.getD_cons_zero, List.getD_cons_succ]
  rw [color "reference" .reference rfl, color "call_callee" .callCallee rfl,
    color "call_argument_binding" .callArgumentBinding rfl,
    color "value_assignment" .valueAssignment rfl, color "return_argument" .returnArgument rfl]
  rfl

theorem Fills.server (h : Fills s "server" kept inner) :
    ServerSettings.ofToml? (.table (Toml.entriesToToml inner)) = some (s.overlay kept).server := by
  have small := Toml.naturalBelow?_natCast s.server.port.toNat_lt_size
  have port := h.optional "port" (fun v => (v.naturalBelow? UInt16.size).map UInt16.ofNat) 7878 rfl
    (by rw [Toml.Setting.toToml, small, Option.map_some, UInt16.ofNat_toNat])
  simp only [ServerSettings.ofToml?, Toml.fields?, List.map_cons, List.map_nil,
    Option.bind_eq_bind, Option.bind_some, List.getD_cons_zero]
  rw [port]
  rfl

theorem Shows.ofToml?_eq (h : Shows s kept entries) :
    ofToml? (.table (Toml.entriesToToml entries)) = some (s.overlay kept) := by
  obtain ⟨_, below, analysis⟩ := h "analysis" rfl
  obtain ⟨_, below', palette⟩ := h "palette" rfl
  obtain ⟨_, below'', server⟩ := h "server" rfl
  have first := (optional_below AnalysisSettings.ofToml? {} below rfl).trans analysis.analysis
  have second := (optional_below Palette.ofToml? {} below' rfl).trans palette.palette
  have third := (optional_below ServerSettings.ofToml? {} below'' rfl).trans server.server
  simp only [ofToml?, Toml.fields?, List.map_cons, List.map_nil, Option.bind_eq_bind,
    Option.bind_some, List.getD_cons_zero, List.getD_cons_succ]
  rw [first, second, third]
  rfl

theorem has_of_readText {folder : Folder} {path text : String}
    (read : folder.readText path = .ok text) : folder.has path := by
  rw [Folder.readText, Folder.readBytes] at read
  rw [Folder.has]
  cases looked : folder.lookup path with
  | ok => rfl
  | error =>
    rw [looked] at read
    cases read

theorem parse?_of_edited {text : String} (edited : Edited s [] (Toml.skipMark text.toList) kept)
    (wellFormed : (Toml.parse? text).isSome) : parse? text = some (s.overlay kept) := by
  obtain ⟨v, parsed⟩ := Option.isSome_iff_exists.mp wellFormed
  rw [parse?, parsed, Option.bind_some]
  obtain ⟨⟨pairs, sections⟩, read, parsed⟩ := Option.bind_eq_some_iff.mp parsed
  obtain ⟨entries, put, same⟩ := Option.bind_eq_some_iff.mp parsed
  cases same
  exact (edited.shows read put).ofToml?_eq

/-- Whatever tables and keys are removed from the document of settings, it stays an edited one, and
    any edited one is loaded as the settings that are kept in it, with the defaults of
    all others. -/
theorem load_edited (s : Settings) (written : s.write?.isSome) :
    (∀ keepTable keep, ∃ text,
      (Toml.writeTables? (s.thinned keepTable keep)).map String.ofList = some text ∧
        (Toml.parse? text).isSome ∧ Edited s [] text.toList (keysOf (s.thinned keepTable keep))) ∧
    (∀ folder path text kept, Folder.readText folder path = .ok text →
      Edited s [] (Toml.skipMark text.toList) kept → (Toml.parse? text).isSome →
        load folder path = .ok (s.overlay kept)) ∧
    ∀ kept table key, (s.overlay kept).setting? table key =
      if (table, key) ∈ kept then s.setting? table key
      else ({} : Settings).setting? table key := by
  refine ⟨exists_edited written, fun folder path text kept read edited wellFormed => ?_,
    s.setting?_overlay⟩
  rw [load, if_pos (has_of_readText read), read]
  simp only [parse?_of_edited edited wellFormed]

def tinted : Settings :=
  { analysis := { strict := false, label := .excerpt }, palette := { reference := "#ff0000" }
    server := { port := 80 } }

def tintedLeft : String :=
  "seen = 1\n[analysis.extra]\nstrict = true\n\n" ++
    "[analysis]\nlabel = \"excerpt\"\nnote.strict = [1]\n[palette]\n"

theorem edited_tintedLeft :
    Edited tinted [] (Toml.skipMark tintedLeft.toList) [("analysis", "label")] := by
  refine .otherKey rfl rfl rfl ?_
  refine .otherTable rfl rfl rfl ?_
  refine .otherKey rfl rfl rfl ?_
  refine .table (show (tinted.tables.lookup "analysis").isSome from rfl) rfl ?_
  refine .setting rfl rfl rfl ?_
  refine .otherKey rfl rfl rfl ?_
  refine .table (show (tinted.tables.lookup "palette").isSome from rfl) rfl ?_
  exact .nothing rfl

theorem load_edited_tinted : tinted.write?.isSome ∧
    load (Folder.empty.put ["refgraph.toml"] (.file tintedLeft.toUTF8)) "refgraph.toml" =
      .ok { analysis := { label := .excerpt } } := by
  have written : tinted.write?.isSome := by decide +kernel
  have free : Folder.empty.TakesFile "refgraph.toml" ["refgraph.toml"] := ⟨rfl, nofun⟩
  have read := (free.put tintedLeft.toUTF8).readText_of_file (free.at?_put_self _)
  have wellFormed : (Toml.parse? tintedLeft).isSome := by decide +kernel
  exact ⟨written, (load_edited tinted written).2.1 _ _ _ _ read edited_tintedLeft wellFormed⟩

end CrossReference.Settings
