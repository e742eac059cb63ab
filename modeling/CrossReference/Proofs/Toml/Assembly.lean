import CrossReference.Toml.Tables

set_option autoImplicit false

/-!
# What a piece of a document leaves alone

A key with dots or a heading changes what stands under its keys, and at each level nothing else.
-/
namespace CrossReference.Toml

variable {entries entries' inner : Entries} {key other : String} {path tail : List String}

theorem get?_put_self (entries : Entries) (key : String) (e : Entry) :
    (entries.put key e).get? key = some e := by
  induction entries with
  | nil => simp [Entries.put, Entries.get?]
  | cons first rest ih =>
    obtain ⟨k, old⟩ := first
    rw [Entries.put]
    split
    · next same => simp [Entries.get?, same]
    · next differs =>
      rw [Entries.get?, List.lookup_cons, beq_eq_false_iff_ne.mpr (Ne.symm differs)]
      exact ih

theorem get?_put_of_ne (entries : Entries) (e : Entry) (differs : other ≠ key) :
    (entries.put key e).get? other = entries.get? other := by
  induction entries with
  | nil => simp [Entries.put, Entries.get?, List.lookup_cons, beq_eq_false_iff_ne.mpr differs]
  | cons first rest ih =>
    obtain ⟨k, old⟩ := first
    rw [Entries.put]
    split
    · next same =>
      rw [same, Entries.get?, Entries.get?, List.lookup_cons, List.lookup_cons,
        beq_eq_false_iff_ne.mpr differs]
    · next =>
      rw [Entries.get?, Entries.get?, List.lookup_cons, List.lookup_cons]
      split
      · rfl
      · exact ih

/-- The entries of the table under a key. Where there is nothing yet, a table may come to be; a
    value and an array of tables are no such thing. -/
def Entries.below? (entries : Entries) (key : String) : Option Entries :=
  match entries.get? key with
  | none => some []
  | some (.table _ _ inner) => some inner
  | _ => none

theorem below?_congr (same : entries.get? key = entries'.get? key) :
    entries.below? key = entries'.below? key := by
  rw [Entries.below?, Entries.below?, same]

theorem below?_put_table (entries : Entries) (key : String) (implicit dotted : Bool)
    (inner : Entries) :
    (entries.put key (.table implicit dotted inner)).below? key = some inner := by
  rw [Entries.below?, get?_put_self]

/-- At each level only the entry under the next key has changed, and where more keys follow, a table
    has remained one. -/
def ChangesAlong : List String → Entries → Entries → Prop
  | [], _, _ => True
  | key :: keys, entries, entries' =>
    (∀ other, other ≠ key → entries'.get? other = entries.get? other) ∧
      (keys ≠ [] → ∀ inner, entries.below? key = some inner →
        ∃ inner', entries'.below? key = some inner' ∧ ChangesAlong keys inner inner')

theorem changesAlong_put (e : Entry) : ChangesAlong [key] entries (entries.put key e) :=
  ⟨fun _ differs => get?_put_of_ne entries e differs, fun more => absurd rfl more⟩

theorem changesAlong_put_table {inner' : Entries} {implicit dotted : Bool}
    (below : entries.below? key = some inner) (changes : ChangesAlong path inner inner') :
    ChangesAlong (key :: path) entries (entries.put key (.table implicit dotted inner')) := by
  refine ⟨fun _ differs => get?_put_of_ne entries _ differs, fun _ found here => ?_⟩
  obtain rfl := Option.some.inj (below.symm.trans here)
  exact ⟨inner', below?_put_table entries key implicit dotted inner', changes⟩

/-- What stands below the tables of an array does not count. -/
theorem changesAlong_put_tables {each each' : List Entries}
    (found : entries.get? key = some (.tables each)) :
    ChangesAlong (key :: path) entries (entries.put key (.tables each')) := by
  refine ⟨fun _ differs => get?_put_of_ne entries _ differs, fun _ inner here => ?_⟩
  rw [Entries.below?, found] at here
  cases here

theorem addPairs_cons {p : Pair} {pairs : List Pair}
    (added : addPairs entries (p :: pairs) = some entries') :
    ∃ next, addPair p.key p.value p.path entries = some next ∧
      addPairs next pairs = some entries' := by
  rw [addPairs, List.foldlM_cons] at added
  exact Option.bind_eq_some_iff.mp added

theorem addPair_changes {v : Toml} (added : addPair key v path entries = some entries') :
    ChangesAlong (path ++ [key]) entries entries' := by
  induction path generalizing entries entries' with
  | nil =>
    rw [addPair] at added
    split at added
    · cases added
      exact changesAlong_put _
    · cases added
  | cons k keys ih =>
    rw [addPair] at added
    split at added
    · next absent =>
      obtain ⟨inner, inside, rfl⟩ := Option.map_eq_some_iff.mp added
      exact changesAlong_put_table (by rw [Entries.below?, absent]) (ih inside)
    · next found =>
      split at added
      · obtain ⟨inner', inside, rfl⟩ := Option.map_eq_some_iff.mp added
        exact changesAlong_put_table (by rw [Entries.below?, found]) (ih inside)
      · cases added
    · next found =>
      split at added
      · cases added
      · obtain ⟨each', _, rfl⟩ := Option.map_eq_some_iff.mp added
        exact changesAlong_put_tables found
    · cases added

theorem changeAt_changes {change : Entries → Option Entries}
    (last : ∀ entries entries', change entries = some entries' → ChangesAlong tail entries entries')
    (changed : changeAt change path entries = some entries') :
    ChangesAlong (path ++ tail) entries entries' := by
  induction path generalizing entries entries' with
  | nil => exact last entries entries' changed
  | cons k keys ih =>
    rw [changeAt] at changed
    split at changed
    · next absent =>
      obtain ⟨inner, inside, rfl⟩ := Option.map_eq_some_iff.mp changed
      exact changesAlong_put_table (by rw [Entries.below?, absent]) (ih inside)
    · next found =>
      obtain ⟨inner', inside, rfl⟩ := Option.map_eq_some_iff.mp changed
      exact changesAlong_put_table (by rw [Entries.below?, found]) (ih inside)
    · next found =>
      obtain ⟨each', _, rfl⟩ := Option.map_eq_some_iff.mp changed
      exact changesAlong_put_tables found
    · cases changed

theorem addTo_changes {s : Section} (added : s.addTo entries = some entries') :
    ChangesAlong [s.key] entries entries' := by
  rw [Section.addTo] at added
  split at added
  case h_5 => cases added
  all_goals
    obtain ⟨_, _, rfl⟩ := Option.map_eq_some_iff.mp added
    exact changesAlong_put _

theorem addTo_below {s : Section} (single : s.repeated = false)
    (below : entries.below? s.key = some inner) (added : s.addTo entries = some entries') :
    ∃ inner', addPairs inner s.pairs = some inner' ∧ entries'.below? s.key = some inner' := by
  rw [Section.addTo, single] at added
  split at added
  · next absent =>
    rw [Entries.below?, absent] at below
    obtain rfl := Option.some.inj below
    obtain ⟨inner', inside, rfl⟩ := Option.map_eq_some_iff.mp added
    exact ⟨inner', inside, below?_put_table entries s.key false false inner'⟩
  · next found =>
    rw [Entries.below?, found] at below
    obtain rfl := Option.some.inj below
    obtain ⟨inner', inside, rfl⟩ := Option.map_eq_some_iff.mp added
    exact ⟨inner', inside, below?_put_table entries s.key false false inner'⟩
  · next contra _ => cases contra
  · next contra _ => cases contra
  · cases added

theorem lookup_entriesToToml (entries : Entries) (key : String) :
    (entriesToToml entries).lookup key = (entries.get? key).map Entry.toToml := by
  induction entries with
  | nil => simp [entriesToToml, Entries.get?]
  | cons first rest ih =>
    obtain ⟨k, e⟩ := first
    rw [entriesToToml, Entries.get?, List.lookup_cons, List.lookup_cons]
    split
    · rfl
    · exact ih

end CrossReference.Toml
