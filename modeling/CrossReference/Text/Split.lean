set_option autoImplicit false

/-!
# Parting a text at a separator

A text is parted at the first occurrence of a character, at the last one, or at every one.
-/
namespace CrossReference.Text

def splitFirst? (separator : Char) : List Char → Option (List Char × List Char)
  | [] => none
  | c :: rest =>
    if c = separator then some ([], rest)
    else (splitFirst? separator rest).map fun parts => (c :: parts.1, parts.2)

def splitLast? (separator : Char) : List Char → Option (List Char × List Char)
  | [] => none
  | c :: rest =>
    match splitLast? separator rest with
    | some parts => some (c :: parts.1, parts.2)
    | none => if c = separator then some ([], rest) else none

/-- The parts between all occurrences. Even the empty text has one. -/
def parts (separator : Char) : List Char → List (List Char)
  | [] => [[]]
  | c :: rest =>
    match parts separator rest with
    | [] => [[c]]
    | first :: more => if c = separator then [] :: first :: more else (c :: first) :: more

theorem parts_ne_nil (separator : Char) (cs : List Char) : parts separator cs ≠ [] := by
  cases cs with
  | nil => exact List.cons_ne_nil _ _
  | cons c rest =>
    rw [parts]
    split
    · exact List.cons_ne_nil _ _
    · split <;> exact List.cons_ne_nil _ _

theorem splitFirst?_append {separator : Char} {before : List Char} (after : List Char)
    (h : separator ∉ before) :
    splitFirst? separator (before ++ separator :: after) = some (before, after) := by
  induction before with
  | nil => simp [splitFirst?]
  | cons b before ih =>
    have differs : b ≠ separator := fun same => h (same ▸ List.mem_cons_self)
    simp [splitFirst?, differs, ih fun inside => h (List.mem_cons_of_mem b inside)]

theorem of_splitFirst?_eq_some {separator : Char} {cs before after : List Char}
    (h : splitFirst? separator cs = some (before, after)) :
    cs = before ++ separator :: after ∧ separator ∉ before := by
  induction cs generalizing before with
  | nil => cases h
  | cons c rest ih =>
    unfold splitFirst? at h
    split at h
    · next same =>
      cases h
      exact ⟨by rw [same]; rfl, List.not_mem_nil⟩
    · next differs =>
      obtain ⟨parts, found, eq⟩ := Option.map_eq_some_iff.1 h
      cases eq
      have ⟨eq, absent⟩ := ih found
      refine ⟨congrArg (c :: ·) eq, fun inside => ?_⟩
      rcases List.mem_cons.1 inside with same | inside
      · exact differs same.symm
      · exact absent inside

theorem splitLast?_eq_none_iff {separator : Char} {cs : List Char} :
    splitLast? separator cs = none ↔ separator ∉ cs := by
  induction cs with
  | nil => simp [splitLast?]
  | cons c rest ih =>
    unfold splitLast?
    cases h : splitLast? separator rest with
    | some parts => simp [h] at ih; simp [ih]
    | none => simp [h] at ih; simp [ih, eq_comm]

theorem splitLast?_append {separator : Char} (before : List Char) {after : List Char}
    (h : separator ∉ after) :
    splitLast? separator (before ++ separator :: after) = some (before, after) := by
  induction before with
  | nil => simp [splitLast?, splitLast?_eq_none_iff.2 h]
  | cons b before ih => simp [splitLast?, ih]

theorem of_splitLast?_eq_some {separator : Char} {cs before after : List Char}
    (h : splitLast? separator cs = some (before, after)) :
    cs = before ++ separator :: after ∧ separator ∉ after := by
  induction cs generalizing before with
  | nil => cases h
  | cons c rest ih =>
    unfold splitLast? at h
    split at h
    · next parts found =>
      cases h
      have ⟨eq, absent⟩ := ih found
      exact ⟨congrArg (c :: ·) eq, absent⟩
    · next none =>
      split at h
      · next same =>
        cases h
        exact ⟨by rw [same]; rfl, splitLast?_eq_none_iff.1 none⟩
      · cases h

theorem parts_of_not_mem {separator : Char} {cs : List Char} (h : separator ∉ cs) :
    parts separator cs = [cs] := by
  induction cs with
  | nil => rfl
  | cons c rest ih =>
    have differs : c ≠ separator := fun same => h (same ▸ List.mem_cons_self)
    rw [parts, ih fun inside => h (List.mem_cons_of_mem c inside)]
    exact if_neg differs

theorem parts_append {separator : Char} {before : List Char} (after : List Char)
    (h : separator ∉ before) :
    parts separator (before ++ separator :: after) = before :: parts separator after := by
  induction before with
  | nil =>
    rw [List.nil_append, parts]
    cases rest : parts separator after with
    | nil => exact absurd rest (parts_ne_nil separator after)
    | cons first more => exact if_pos rfl
  | cons b before ih =>
    have differs : b ≠ separator := fun same => h (same ▸ List.mem_cons_self)
    rw [List.cons_append, parts, ih fun inside => h (List.mem_cons_of_mem b inside)]
    exact if_neg differs

end CrossReference.Text
