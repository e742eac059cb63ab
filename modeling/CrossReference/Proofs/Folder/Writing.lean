import CrossReference.Folder

set_option autoImplicit false

/-!
# Writing a file and reading it back

Writing changes one place. No directory is at that place, so every path that led somewhere without
passing through it leads there still.
-/
namespace CrossReference

theorem Text.ofBytes?_toUTF8 (text : String) : ofBytes? text.toUTF8 = some text :=
  dif_pos text.isValidUTF8

namespace Folder

variable {f : Folder} {path : String} {here there p : Place} {parts : List String}

theorem isGround_of_free (free : f.at? p ≠ some .directory) : isGround p = false := by
  cases ground : isGround p with
  | false => rfl
  | true => exact absurd (if_pos ground) free

theorem follow_append (front back : List String) : f.follow here (front ++ back) =
    (f.follow here front).bind fun there => f.follow there back := by
  induction front generalizing here with
  | nil => rfl
  | cons part front ih =>
    rw [List.cons_append, follow, follow]
    split
    · rfl
    · rfl
    · simp only [ih]
      split
      · rfl
      split
      · rfl
      split <;> rfl

theorem at?_of_follow_concat (h : f.follow here (parts ++ [""]) = .ok there) :
    f.at? there = some .directory := by
  rw [follow_append] at h
  cases way : f.follow here parts with
  | error fault =>
    rw [way] at h
    cases h
  | ok last =>
    rw [way] at h
    change f.follow last [""] = .ok there at h
    rw [follow] at h
    split at h
    · cases h
    · cases h
    · next found =>
      cases h
      exact found

/-- Where no directory is, no way leads on, so what is put there is in no way. -/
theorem follow_put (free : f.at? p ≠ some .directory) (c : Content)
    (h : f.follow here parts = .ok there) : (f.put p c).follow here parts = .ok there := by
  induction parts generalizing here with
  | nil => exact h
  | cons part parts ih =>
    rw [follow] at h
    split at h
    · cases h
    · cases h
    · next found =>
      -- The way goes on from a directory, so it has not come to the place that was written.
      have other : here ≠ p := by
        rintro rfl
        exact free found
      rw [follow, at?_put f p here c (isGround_of_free free), if_neg other, found]
      dsimp only
      split at h
      · next stays => rw [if_pos stays]; exact ih h
      · next moves =>
        rw [if_neg moves]
        split at h
        · next up => rw [if_pos up]; exact ih h
        · next down =>
          rw [if_neg down]
          split at h
          · cases h
          · next short => rw [if_neg short]; exact ih h

theorem pathFault?_of_locate (h : f.locate path = .ok here) : pathFault? path = none := by
  rw [locate] at h
  split at h
  · cases h
  · assumption

theorem write_of_error {bytes : ByteArray} {fault : FileFault}
    (failed : (f.write path bytes).1 = .error fault) : (f.write path bytes).2 = f := by
  revert failed
  rw [write]
  cases f.locateToWrite path with
  | error _ => exact fun _ => rfl
  | ok here =>
    dsimp only
    cases f.at? here with
    | none => exact nofun
    | some content =>
      cases content with
      | file _ => exact nofun
      | directory => exact fun _ => rfl

/-- The directories on a path are there, and where it leads a file may be. -/
structure TakesFile (f : Folder) (path : String) (here : Place) : Prop where
  located : f.locate path = .ok here
  free : f.at? here ≠ some .directory

namespace TakesFile

theorem follow_eq (h : f.TakesFile path here) :
    f.follow (startOf path) (partsOf path) = .ok here := by
  have located := h.located
  rwa [locate, pathFault?_of_locate h.located] at located

theorem endsInSlash_eq (h : f.TakesFile path here) : endsInSlash path = false := by
  rw [endsInSlash, decide_eq_false_iff_not]
  intro slash
  obtain ⟨front, parts⟩ := List.getLast?_eq_some_iff.mp slash
  have way := h.follow_eq
  rw [parts] at way
  exact h.free (at?_of_follow_concat way)

theorem partsToWrite_eq (h : f.TakesFile path here) : partsToWrite path = partsOf path := by
  have slash := h.endsInSlash_eq
  rw [endsInSlash, decide_eq_false_iff_not, List.getLast?_eq_head?_reverse] at slash
  rw [partsToWrite]
  cases backwards : (partsOf path).reverse with
  | nil => exact (List.reverse_eq_nil_iff.mp backwards).symm
  | cons last front =>
    rw [backwards] at slash
    have kept : decide (last = "") = false := decide_eq_false fun same => slash (congrArg some same)
    rw [List.dropWhile_cons_of_neg (by simp [kept]), ← backwards, List.reverse_reverse]

theorem locateToWrite_eq (h : f.TakesFile path here) : f.locateToWrite path = .ok here := by
  rw [locateToWrite, pathFault?_of_locate h.located]
  dsimp only
  rw [h.endsInSlash_eq, h.partsToWrite_eq]
  exact h.follow_eq

theorem write_eq (h : f.TakesFile path here) (bytes : ByteArray) :
    f.write path bytes = (.ok (), f.put here (.file bytes)) := by
  rw [write, h.locateToWrite_eq]
  dsimp only
  split
  · next found => exact absurd found h.free
  · rfl

theorem at?_put_self (h : f.TakesFile path here) (c : Content) :
    (f.put here c).at? here = some c := by
  rw [at?_put f here here c (isGround_of_free h.free), if_pos rfl]

theorem put (h : f.TakesFile path here) (bytes : ByteArray) :
    (f.put here (.file bytes)).TakesFile path here := by
  constructor
  · rw [locate, pathFault?_of_locate h.located]
    exact follow_put h.free _ h.follow_eq
  · rw [h.at?_put_self]
    exact nofun

theorem has_iff (h : f.TakesFile path here) : f.has path ↔ f.at? here ≠ none := by
  rw [has, lookup, h.located]
  cases found : f.at? here <;> simp [found]

theorem readBytes_of_file (h : f.TakesFile path here) {bytes : ByteArray}
    (found : f.at? here = some (.file bytes)) : f.readBytes path = .ok bytes := by
  rw [readBytes, lookup, h.located]
  simp only [found]

theorem readText_of_file (h : f.TakesFile path here) {text : String}
    (found : f.at? here = some (.file text.toUTF8)) : f.readText path = .ok text := by
  rw [readText, h.readBytes_of_file found]
  simp only [Text.ofBytes?_toUTF8]

end TakesFile
end Folder
end CrossReference
