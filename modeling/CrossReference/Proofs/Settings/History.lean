import CrossReference.Proofs.Folder.Writing
import CrossReference.Proofs.Settings.Document
import CrossReference.Settings.Store
import Mathlib.Algebra.Group.Nat.Defs

set_option autoImplicit false

/-!
# The history of stored settings

Settings are stored at a path and loaded from it in any order. What is loaded is told by the writes
that succeeded, and whether a write succeeds is told by what is there, by whether it may be
replaced, and by the one number that may be too large for a document: `load_after_history`.
-/
namespace CrossReference.Settings

inductive Call
  | save (settings : Settings) (force : Bool)
  | load

/-- The folder, and the settings of the writes that succeeded, with the latest in front. -/
structure History where
  folder : Folder
  stored : List Settings

namespace History

def step (path : String) (h : History) : Call → History
  | .save settings force =>
    match save h.folder path settings force with
    | (.ok _, folder) => ⟨folder, settings :: h.stored⟩
    | (.error _, folder) => ⟨folder, h.stored⟩
  | .load => h

def run (path : String) (h : History) (calls : List Call) : History := calls.foldl (step path) h

end History

variable {f f' : Folder} {path : String} {here : Folder.Place} {s : Settings} {force : Bool}
  {last : Option Settings} {h : History}

theorem save_of_error {error : Error} (failed : (save f path s force).1 = .error error) :
    (save f path s force).2 = f := by
  revert failed
  rw [save]
  split
  · exact fun _ => rfl
  · cases s.write? with
    | none => exact fun _ => rfl
    | some text =>
      dsimp only [Prod.map_fst, Prod.map_snd]
      cases wrote : (f.write path text.toUTF8).1 with
      | ok _ => exact nofun
      | error fault => exact fun _ => Folder.write_of_error wrote

theorem save_eq (h : f.TakesFile path here) (s : Settings) (force : Bool) : save f path s force =
    if f.has path && !force then (.error (.settings (.alreadyExists path)), f)
    else match s.write? with
      | none => (.error (.settings .numberTooLarge), f)
      | some text => (.ok (), f.put here (.file text.toUTF8)) := by
  by_cases refused : (f.has path && !force) = true
  · rw [save, if_pos refused, if_pos refused]
  · rw [save, if_neg refused, if_neg refused]
    cases s.write? with
    | none => rfl
    | some text => exact congrArg (Prod.map (Except.mapError Error.file) id) (h.write_eq _)

theorem of_save_eq_ok (h : f.TakesFile path here) (saved : save f path s force = (.ok (), f')) :
    ∃ text, s.write? = some text ∧ f' = f.put here (.file text.toUTF8) := by
  rw [save_eq h] at saved
  split at saved
  · cases saved
  · split at saved
    · cases saved
    · next text written =>
      cases saved
      exact ⟨text, written, rfl⟩

theorem load_of_file (h : f.TakesFile path here) {text : String}
    (found : f.at? here = some (.file text.toUTF8)) (read : parse? text = some s) :
    load f path = .ok s := by
  have present : f.has path := h.has_iff.mpr (by rw [found]; exact nofun)
  rw [load, if_pos present, h.readText_of_file found]
  simp only [read]

theorem save_eq_error_iff (h : f.TakesFile path here) :
    (∃ error, (save f path s force).1 = .error error) ↔
      (f.has path ∧ force = false) ∨ 2 ^ 63 - 1 < s.analysis.excerptWidth.toNat := by
  have width : 2 ^ 63 - 1 < s.analysis.excerptWidth.toNat ↔ s.write? = none :=
    write?_eq_none_iff.symm
  rw [save_eq h, width]
  cases f.has path <;> cases force <;> cases s.write? <;> simp

/-- At the end of the path is the document of the settings that were stored last, or nothing. -/
structure Holds (path : String) (here : Folder.Place) (last : Option Settings) (f : Folder) :
    Prop where
  located : f.locate path = .ok here
  absent : last = none → f.at? here = none
  written : ∀ s, last = some s →
    ∃ text, s.write? = some text ∧ f.at? here = some (.file text.toUTF8)

theorem Holds.takesFile (h : Holds path here last f) : f.TakesFile path here := by
  refine ⟨h.located, ?_⟩
  cases last with
  | none =>
    rw [h.absent rfl]
    exact nofun
  | some s =>
    obtain ⟨text, _, found⟩ := h.written s rfl
    rw [found]
    exact nofun

theorem Holds.has_iff (h : Holds path here last f) : f.has path ↔ last ≠ none := by
  rw [h.takesFile.has_iff]
  cases last with
  | none => simp [h.absent rfl]
  | some s =>
    obtain ⟨text, _, found⟩ := h.written s rfl
    simp [found]

theorem Holds.load_eq (h : Holds path here last f) : load f path = .ok (last.getD {}) := by
  cases last with
  | none =>
    rw [load, if_neg (mt h.has_iff.mp (by simp))]
    rfl
  | some s =>
    obtain ⟨text, written, found⟩ := h.written s rfl
    exact load_of_file h.takesFile found (parse?_of_write? written)

theorem Holds.of_save (h : Holds path here last f) (saved : save f path s force = (.ok (), f')) :
    Holds path here (some s) f' := by
  obtain ⟨text, written, rfl⟩ := of_save_eq_ok h.takesFile saved
  refine ⟨(h.takesFile.put _).located, nofun, ?_⟩
  rintro _ ⟨⟩
  exact ⟨text, written, h.takesFile.at?_put_self _⟩

theorem History.step_of_error {error : Error}
    (failed : (save h.folder path s force).1 = .error error) : h.step path (.save s force) = h := by
  have kept := save_of_error failed
  rw [step]
  cases result : save h.folder path s force with
  | mk outcome left =>
    rw [result] at failed kept
    obtain rfl : outcome = .error error := failed
    obtain rfl : left = h.folder := kept
    rfl

theorem holds_step (holds : Holds path here h.stored.head? h.folder) (call : Call) :
    Holds path here (h.step path call).stored.head? (h.step path call).folder := by
  cases call with
  | load => exact holds
  | save s force =>
    cases outcome : (save h.folder path s force).1 with
    | error error => rwa [History.step_of_error outcome]
    | ok _ =>
      have saved : save h.folder path s force = (.ok (), _) := Prod.ext outcome rfl
      rw [History.step, saved]
      exact holds.of_save saved

theorem holds_run (holds : Holds path here h.stored.head? h.folder) (calls : List Call) :
    Holds path here (h.run path calls).stored.head? (h.run path calls).folder := by
  induction calls generalizing h with
  | nil => exact holds
  | cons call rest ih => exact ih (holds_step holds call)

/-- What loading gives and what the next write does, told by the writes that succeeded. -/
structure History.Consistent (path : String) (h : History) : Prop where
  load_eq : load h.folder path = .ok (h.stored.head?.getD {})
  has_iff : h.folder.has path ↔ h.stored ≠ []
  bytes : ∀ s, h.stored.head? = some s →
    ∃ text, s.write? = some text ∧ h.folder.readBytes path = .ok text.toUTF8
  save_fails_iff : ∀ s force, (∃ error, (save h.folder path s force).1 = .error error) ↔
    (h.folder.has path ∧ force = false) ∨ 2 ^ 63 - 1 < s.analysis.excerptWidth.toNat
  kept : ∀ s force error, (save h.folder path s force).1 = .error error →
    (save h.folder path s force).2 = h.folder ∧ h.step path (.save s force) = h

/-- After any calls the history is consistent, if at first nothing was at the end of the path, and
    all that is on the way there are directories. -/
theorem load_after_history (folder : Folder) (path : String) (here : Folder.Place)
    (calls : List Call) (located : folder.locate path = .ok here)
    (absent : folder.at? here = none) :
    ((⟨folder, []⟩ : History).run path calls).Consistent path := by
  have holds : Holds path here _ _ :=
    holds_run (h := ⟨folder, []⟩) ⟨located, fun _ => absent, nofun⟩ calls
  constructor
  case load_eq => exact holds.load_eq
  case has_iff =>
    rw [holds.has_iff]
    simp
  case bytes =>
    intro s stored
    obtain ⟨text, written, found⟩ := holds.written s stored
    exact ⟨text, written, holds.takesFile.readBytes_of_file found⟩
  case save_fails_iff => exact fun s force => save_eq_error_iff holds.takesFile
  case kept =>
    exact fun s force error failed => ⟨save_of_error failed, History.step_of_error failed⟩

/-- Settings whose texts hold quotes of both kinds, a backslash, line breaks and a control. -/
def quoted : Settings :=
  { palette := { reference := "\"\"\"'''\\", callCallee := "a\r\nb\x07"
                 returnArgument := "\"\"\n" } }

def wide : Settings := { analysis := { excerptWidth := 0xFFFFFFFFFFFFFFFF } }

theorem load_after_history_quoted :
    Folder.empty.locate "refgraph.toml" = .ok ["refgraph.toml"] ∧
      Folder.empty.at? ["refgraph.toml"] = none ∧
      load ((⟨.empty, []⟩ : History).run "refgraph.toml" [.save wide false, .load,
        .save quoted false, .save {} false, .save wide true]).folder "refgraph.toml" =
          .ok quoted := by
  refine ⟨rfl, rfl, ?_⟩
  have consistent := load_after_history .empty "refgraph.toml" ["refgraph.toml"]
    [.save wide false, .load, .save quoted false, .save {} false, .save wide true] rfl rfl
  have stored : ((⟨.empty, []⟩ : History).run "refgraph.toml" [.save wide false, .load,
      .save quoted false, .save {} false, .save wide true]).stored = [quoted] := by
    decide +kernel
  rw [consistent.load_eq, stored]
  rfl

end CrossReference.Settings
