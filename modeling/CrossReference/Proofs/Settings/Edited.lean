import CrossReference.Proofs.Settings.Document

set_option autoImplicit false

/-!
# Edited documents of settings

A document of settings may lose some of its keys and tables and gain others that nobody knows. Read
line by line, it gives the settings that are left and what is unknown: `Edited.given`. Any choice of
what is removed leaves such a document: `exists_edited`.
-/
namespace CrossReference.Settings

open Toml (Pair Section)

def keysOf (tables : List (String × List (String × Toml.Setting))) : List (String × String) :=
  tables.flatMap fun t => t.2.map fun pair => (t.1, pair.1)

def setting? (s : Settings) (table key : String) : Option Toml.Setting :=
  (s.tables.lookup table).bind fun pairs => pairs.lookup key

/-- Whether a path of keys leads to no table or key of settings, nor on from such a key. -/
def isUnknown : List String → Bool
  | [] => false
  | [table] => (({} : Settings).tables.lookup table).isNone
  | table :: key :: _ => (({} : Settings).setting? table key).isNone

/-- A document of settings from a line on, below a heading. Some of its lines are those that are
    written for the settings, each of them below the heading of its table; the others give keys and
    tables that are unknown. The settings that are `kept` are those whose lines are there. -/
inductive Edited (s : Settings) : List String → List Char → List (String × String) → Prop
  | nothing {heading : List String} {cs : List Char} (here : Toml.skipAllLines cs = []) :
      Edited s heading cs []
  | setting {table key : String} {v : Toml.Setting} {line cs rest : List Char}
      {kept : List (String × String)} (given : s.setting? table key = some v)
      (written : Toml.writePair? key v = some line) (here : Toml.skipAllLines cs = line ++ rest)
      (later : Edited s [table] rest kept) : Edited s [table] cs ((table, key) :: kept)
  | table {heading : List String} {table : String} {cs rest : List Char}
      {kept : List (String × String)} (known : (s.tables.lookup table).isSome)
      (here : Toml.skipAllLines cs = '[' :: (table.toList ++ ']' :: '\n' :: rest))
      (later : Edited s [table] rest kept) : Edited s heading cs kept
  | otherKey {heading : List String} {p : Pair} {cs behind rest : List Char}
      {kept : List (String × String)}
      (here : Toml.pair? (Toml.value? Toml.nestingLimit) (Toml.skipAllLines cs) = some (p, behind))
      (ends : Toml.lineEnd? behind = some rest)
      (unknown : isUnknown (heading ++ (p.path ++ [p.key])))
      (later : Edited s heading rest kept) : Edited s heading cs kept
  | otherTable {heading keys : List String} {repeated : Bool} {cs behind rest : List Char}
      {kept : List (String × String)}
      (here : Toml.heading? (Toml.skipAllLines cs) = some ((repeated, keys), behind))
      (ends : Toml.lineEnd? behind = some rest) (unknown : isUnknown keys)
      (later : Edited s keys rest kept) : Edited s heading cs kept

variable {s : Settings} {table key : String} {v : Toml.Setting} {kept : List (String × String)}
  {heading : List String} {cs rest : List Char} {steps : Nat} {pairs : List Pair}
  {sections : List Section}

theorem isSome_lookup_tables (s s' : Settings) (table : String) :
    (s.tables.lookup table).isSome = (s'.tables.lookup table).isSome := by
  simp only [tables, List.lookup_cons]
  cases table == "analysis" <;> cases table == "palette" <;> cases table == "server" <;> rfl

theorem isSome_setting? (s s' : Settings) (table key : String) :
    (s.setting? table key).isSome = (s'.setting? table key).isSome := by
  simp only [setting?, tables, List.lookup_cons]
  cases table == "analysis"
  case true =>
    simp only [Option.bind_some, List.lookup_cons]
    cases key == "strict" <;> cases key == "label" <;> cases key == "excerpt_width" <;> rfl
  cases table == "palette"
  case true =>
    simp only [Option.bind_some, List.lookup_cons]
    cases key == "reference" <;> cases key == "call_callee" <;>
      cases key == "call_argument_binding" <;> cases key == "value_assignment" <;>
      cases key == "return_argument" <;> rfl
  cases table == "server"
  case true =>
    simp only [Option.bind_some, List.lookup_cons]
    cases key == "port" <;> rfl
  rfl

theorem of_isUnknown_singleton (unknown : isUnknown [table]) :
    ¬(s.tables.lookup table).isSome := by
  rw [isSome_lookup_tables s {}]
  simpa only [isUnknown, Option.isNone_iff_eq_none, Option.not_isSome_iff_eq_none] using unknown

theorem of_isUnknown_cons {more : List String} (unknown : isUnknown (table :: key :: more)) :
    s.setting? table key = none := by
  have absent : ¬(s.setting? table key).isSome := by
    rw [isSome_setting? s {}]
    simpa only [isUnknown, Option.isNone_iff_eq_none, Option.not_isSome_iff_eq_none] using unknown
  simpa using absent

theorem lookup_eq_some_iff_mem {α : Type} {list : List (String × α)} {a : α}
    (nodup : (list.map Prod.fst).Nodup) : list.lookup key = some a ↔ (key, a) ∈ list := by
  constructor
  · intro found
    obtain ⟨before, behind, rfl, -⟩ := List.lookup_eq_some_iff.mp found
    exact List.mem_append_right _ List.mem_cons_self
  · intro inside
    obtain ⟨before, behind, rfl⟩ := List.append_of_mem inside
    refine List.lookup_eq_some_iff.mpr ⟨before, behind, rfl, fun pair hp => ?_⟩
    rw [List.map_append, List.nodup_append] at nodup
    have differs : key ≠ pair.1 :=
      (nodup.2.2 _ (List.mem_map.mpr ⟨_, hp, rfl⟩) key (by simp)).symm
    simpa using differs

theorem isSome_lookup_iff :
    (s.tables.lookup table).isSome ↔ ∃ pairs, (table, pairs) ∈ s.tables := by
  simp only [Option.isSome_iff_exists, lookup_eq_some_iff_mem s.plain_tables.names_nodup]

theorem setting?_eq_some_iff :
    s.setting? table key = some v ↔ ∃ pairs, (table, pairs) ∈ s.tables ∧ (key, v) ∈ pairs := by
  rw [setting?, Option.bind_eq_some_iff]
  refine exists_congr fun pairs => ?_
  rw [lookup_eq_some_iff_mem s.plain_tables.names_nodup]
  exact and_congr_right fun inside =>
    lookup_eq_some_iff_mem (s.plain_tables.keys_nodup _ inside)

theorem mem_keysOf_of_setting? (given : s.setting? table key = some v) :
    (table, key) ∈ keysOf s.tables := by
  obtain ⟨pairs, found, inside⟩ := setting?_eq_some_iff.mp given
  exact List.mem_flatMap.mpr ⟨_, found, List.mem_map.mpr ⟨_, inside, rfl⟩⟩

theorem bare_of_lookup (known : (s.tables.lookup table).isSome) : Toml.IsBare table := by
  obtain ⟨pairs, found⟩ := isSome_lookup_iff.mp known
  exact (s.plain_tables.bare _ found).1

theorem bare_of_setting? (given : s.setting? table key = some v) : Toml.IsBare key := by
  obtain ⟨pairs, found, inside⟩ := setting?_eq_some_iff.mp given
  exact (s.plain_tables.bare _ found).2 _ inside

inductive Given (s : Settings) (heading : List String) :
    List Pair → List (String × String) → Prop
  | nothing : Given s heading [] []
  | setting {table key : String} {v : Toml.Setting} {pairs : List Pair}
      {kept : List (String × String)} (below : heading = [table])
      (given : s.setting? table key = some v) (later : Given s heading pairs kept) :
      Given s heading (⟨[], key, v.toToml⟩ :: pairs) ((table, key) :: kept)
  | other {p : Pair} {pairs : List Pair} {kept : List (String × String)}
      (unknown : isUnknown (heading ++ (p.path ++ [p.key])))
      (later : Given s heading pairs kept) : Given s heading (p :: pairs) kept

inductive GivenTables (s : Settings) : List Section → List (String × String) → Prop
  | nothing : GivenTables s [] []
  | table {table : String} {pairs : List Pair} {sections : List Section}
      {kept kept' : List (String × String)} (known : (s.tables.lookup table).isSome)
      (given : Given s [table] pairs kept) (later : GivenTables s sections kept') :
      GivenTables s (⟨false, [], table, pairs⟩ :: sections) (kept ++ kept')
  | other {other : Section} {sections : List Section} {kept : List (String × String)}
      (unknown : isUnknown (other.path ++ [other.key])) (later : GivenTables s sections kept) :
      GivenTables s (other :: sections) kept

theorem Given.table_eq (h : Given s [table] pairs kept) : ∀ pair ∈ kept, pair.1 = table := by
  induction h with
  | nothing => exact nofun
  | setting below _ _ ih => exact List.forall_mem_cons.mpr ⟨(List.cons.inj below).1.symm, ih⟩
  | other _ _ ih => exact ih

theorem Given.eq_nil (h : Given s heading pairs kept) (other : heading = [] ∨ isUnknown heading) :
    kept = [] := by
  induction h with
  | nothing => rfl
  | setting below given _ ih =>
    rcases other with rfl | unknown
    · cases below
    · subst below
      obtain ⟨_, found, -⟩ := setting?_eq_some_iff.mp given
      exact absurd (isSome_lookup_iff.mpr ⟨_, found⟩) (of_isUnknown_singleton unknown)
  | other _ _ ih => exact ih

theorem Edited.given (h : Edited s heading cs kept)
    (read : Toml.lines? steps cs = some (pairs, sections)) :
    ∃ here later, kept = here ++ later ∧ Given s heading pairs here ∧
      GivenTables s sections later := by
  induction h generalizing steps pairs sections with
  | nothing here =>
    obtain ⟨rfl, rfl⟩ := Toml.of_lines?_nil here read
    exact ⟨[], [], rfl, .nothing, .nothing⟩
  | @setting table key v line cs rest kept given written here _ ih =>
    obtain ⟨value, valueWritten, rfl⟩ := Option.map_eq_some_iff.mp written
    have pair := Toml.pair?_write? (bare_of_setting? given) valueWritten rest
    obtain ⟨_, below, readLater, rfl⟩ := Toml.of_lines?_pair
      (by rw [here, ← pair]; simp) (Toml.lineEnd?_newline rest) read
    obtain ⟨first, more, rfl, inside, behind⟩ := ih readLater
    exact ⟨(table, key) :: first, more, rfl, .setting rfl given inside, behind⟩
  | @table heading table cs rest kept known here _ ih =>
    have opens := Toml.heading?_bare (bare_of_lookup known) ('\n' :: rest)
    obtain ⟨rfl, _, path, key, below, later, same, readLater, rfl⟩ :=
      Toml.of_lines?_heading (here ▸ opens) (Toml.lineEnd?_newline rest) read
    obtain ⟨rfl, rfl⟩ : path = [] ∧ key = table := by
      simpa [List.singleton_eq_append_iff] using same
    obtain ⟨first, more, rfl, inside, behind⟩ := ih readLater
    exact ⟨[], first ++ more, rfl, .nothing, .table known inside behind⟩
  | otherKey here ends unknown _ ih =>
    obtain ⟨_, below, readLater, rfl⟩ := Toml.of_lines?_pair here ends read
    obtain ⟨first, more, rfl, inside, behind⟩ := ih readLater
    exact ⟨first, more, rfl, .other unknown inside, behind⟩
  | otherTable here ends unknown _ ih =>
    obtain ⟨rfl, _, path, key, below, later, rfl, readLater, rfl⟩ :=
      Toml.of_lines?_heading here ends read
    obtain ⟨first, more, rfl, inside, behind⟩ := ih readLater
    obtain rfl := inside.eq_nil (.inr unknown)
    exact ⟨[], more, rfl, .nothing, .other unknown behind⟩

/-- The tables of settings without those that are not to be kept, and without some of their keys. -/
def thinned (s : Settings) (keepTable : String → Bool) (keep : String → String → Bool) :
    List (String × List (String × Toml.Setting)) :=
  (s.tables.filter fun t => keepTable t.1).map fun t =>
    (t.1, t.2.filter fun pair => keep t.1 pair.1)

theorem Edited.newline (h : Edited s heading cs kept) : Edited s heading ('\n' :: cs) kept := by
  cases h with
  | nothing here => exact .nothing here
  | setting given written here later => exact .setting given written here later
  | table known here later => exact .table known here later
  | otherKey here ends unknown later => exact .otherKey here ends unknown later
  | otherTable here ends unknown later => exact .otherTable here ends unknown later

theorem writePair?_starts (bare : Toml.IsBare key) {line : List Char}
    (written : Toml.writePair? key v = some line) (rest : List Char) :
    Toml.skipAllLines (line ++ rest) = line ++ rest := by
  obtain ⟨value, _, rfl⟩ := Option.map_eq_some_iff.mp written
  obtain ⟨nonempty, all⟩ := bare
  generalize key.toList = word at *
  obtain ⟨d, ds, rfl⟩ := List.exists_cons_of_ne_nil nonempty
  exact Toml.skipAllLines_of_isKeyChar (all d List.mem_cons_self) _

theorem Edited.writtenLines {below : List (String × Toml.Setting)} {lines : List (List Char)}
    (h : Edited s [table] rest kept)
    (given : ∀ pair ∈ below, s.setting? table pair.1 = some pair.2)
    (written : (below.mapM fun (key, v) => Toml.writePair? key v) = some lines) :
    Edited s [table] (lines.flatten ++ rest) (below.map (fun pair => (table, pair.1)) ++ kept) := by
  induction below generalizing lines with
  | nil =>
    cases written
    exact h
  | cons first more ih =>
    rw [List.mapM_cons] at written
    obtain ⟨line, lineWritten, written⟩ := Option.bind_eq_some_iff.mp written
    obtain ⟨later, laterWritten, same⟩ := Option.bind_eq_some_iff.mp written
    cases same
    obtain ⟨here, behind⟩ := List.forall_mem_cons.mp given
    rw [List.flatten_cons, List.append_assoc]
    exact .setting here lineWritten (writePair?_starts (bare_of_setting? here) lineWritten _)
      (ih behind laterWritten)

theorem Edited.writtenTable {t : String × List (String × Toml.Setting)}
    (h : ∀ heading, Edited s heading rest kept) (known : (s.tables.lookup t.1).isSome)
    (given : ∀ pair ∈ t.2, s.setting? t.1 pair.1 = some pair.2)
    (written : Toml.writeTable? t.1 t.2 = some cs) (heading : List String) :
    Edited s heading (cs ++ rest) (t.2.map (fun pair => (t.1, pair.1)) ++ kept) := by
  obtain ⟨lines, linesWritten, same⟩ := Option.bind_eq_some_iff.mp written
  cases same
  refine .table known ?_ ((h _).writtenLines given linesWritten)
  have start := Toml.skipAllLines_cons (c := '[') rfl (by decide) (by decide) (by decide)
    (t.1.toList ++ ']' :: '\n' :: (lines.flatten ++ rest))
  simpa using start

theorem edited_of_writeTables? {tables : List (String × List (String × Toml.Setting))}
    (known : ∀ t ∈ tables, (s.tables.lookup t.1).isSome)
    (given : ∀ t ∈ tables, ∀ pair ∈ t.2, s.setting? t.1 pair.1 = some pair.2)
    (written : Toml.writeTables? tables = some cs) (heading : List String) :
    Edited s heading cs (keysOf tables) := by
  obtain ⟨texts, textsWritten, same⟩ := Option.bind_eq_some_iff.mp written
  cases same
  clear written
  induction tables generalizing texts heading with
  | nil =>
    cases textsWritten
    exact .nothing rfl
  | cons first more ih =>
    rw [List.mapM_cons] at textsWritten
    obtain ⟨text, textWritten, rest⟩ := Option.bind_eq_some_iff.mp textsWritten
    obtain ⟨later, laterWritten, same⟩ := Option.bind_eq_some_iff.mp rest
    cases same
    obtain ⟨knownFirst, knownMore⟩ := List.forall_mem_cons.mp known
    obtain ⟨givenFirst, givenMore⟩ := List.forall_mem_cons.mp given
    have behind (heading : List String) := ih knownMore givenMore heading later laterWritten
    cases later with
    | nil =>
      simpa [keysOf] using Edited.writtenTable behind knownFirst givenFirst textWritten heading
    | cons second others =>
      simpa [keysOf] using
        Edited.writtenTable (fun h => (behind h).newline) knownFirst givenFirst textWritten heading

variable {keepTable : String → Bool} {keep : String → String → Bool}

theorem exists_of_mem_thinned {t : String × List (String × Toml.Setting)}
    (h : t ∈ s.thinned keepTable keep) : ∃ u ∈ s.tables, t.1 = u.1 ∧ t.2.Sublist u.2 := by
  obtain ⟨u, left, rfl⟩ := List.mem_map.mp h
  exact ⟨u, (List.mem_filter.mp left).1, rfl, List.filter_sublist⟩

theorem plain_thinned (s : Settings) (keepTable : String → Bool) (keep : String → String → Bool) :
    Toml.Plain (s.thinned keepTable keep) := by
  have plain := s.plain_tables
  constructor
  case names_nodup =>
    have names : (s.thinned keepTable keep).map Prod.fst =
        (s.tables.filter fun t => keepTable t.1).map Prod.fst := by simp [thinned]
    rw [names]
    exact plain.names_nodup.sublist (List.filter_sublist.map _)
  case keys_nodup =>
    intro t ht
    obtain ⟨u, inside, -, sub⟩ := exists_of_mem_thinned ht
    exact (plain.keys_nodup u inside).sublist (sub.map _)
  case bare =>
    intro t ht
    obtain ⟨u, inside, same, sub⟩ := exists_of_mem_thinned ht
    rw [same]
    exact (plain.bare u inside).imp_right fun all pair hp => all pair (sub.subset hp)

theorem exists_edited (written : s.write?.isSome) (keepTable : String → Bool)
    (keep : String → String → Bool) :
    ∃ text, (Toml.writeTables? (s.thinned keepTable keep)).map String.ofList = some text ∧
      (Toml.parse? text).isSome ∧ Edited s [] text.toList (keysOf (s.thinned keepTable keep)) := by
  have writable : Toml.writeTables? (s.thinned keepTable keep) ≠ none := by
    intro none
    obtain ⟨t, ht, pair, hp, large⟩ := Toml.writeTables?_eq_none_iff.mp none
    obtain ⟨u, inside, -, sub⟩ := exists_of_mem_thinned ht
    have large := Toml.writeTables?_eq_none_iff.mpr ⟨u, inside, pair, sub.subset hp, large⟩
    rw [write?, large] at written
    cases written
  obtain ⟨cs, written⟩ := Option.ne_none_iff_exists'.mp writable
  refine ⟨String.ofList cs, by rw [written]; rfl, ?_, ?_⟩
  · rw [Toml.parse?_of_writeTables? (s.plain_thinned keepTable keep) written]
    rfl
  · rw [String.toList_ofList]
    apply edited_of_writeTables? ?_ ?_ written
    · intro t ht
      obtain ⟨u, inside, same, -⟩ := exists_of_mem_thinned ht
      rw [same]
      exact isSome_lookup_iff.mpr ⟨_, inside⟩
    · intro t ht pair hp
      obtain ⟨u, inside, same, sub⟩ := exists_of_mem_thinned ht
      rw [same]
      exact setting?_eq_some_iff.mpr ⟨_, inside, sub.subset hp⟩

end CrossReference.Settings
