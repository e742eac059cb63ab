import CrossReference.Folder
import CrossReference.Proofs.Parse.Nodes
import CrossReference.Watch

set_option autoImplicit false

/-!
# The history of a watch

A file is written, removed and looked at in any order. What a watch keeps is told by the looks
alone: it is the fingerprint and the graph of the content at the latest look that gave an update,
and what a look gives is decided by comparing the file with that content: `process_after_history`.
-/
namespace CrossReference.Watch

inductive Event
  | write (bytes : ByteArray)
  | remove
  | look

/-- What reading the file gave, and what came of it. -/
structure Look where
  content : Except FileFault String
  outcome : Outcome

structure History where
  folder : Folder
  watch : Watch
  looks : List Look

def Outcome.isUpdate : Outcome → Bool
  | updated _ => true
  | unchanged | failed _ => false

namespace History

def start (folder : Folder) (analysis : Analysis) (digest : ByteArray → ByteArray) : History :=
  ⟨folder, { analysis, fingerprint := digest }, []⟩

def step (path : String) (h : History) : Event → History
  | .write bytes => { h with folder := h.folder.place path bytes }
  | .remove => { h with folder := h.folder.remove path }
  | .look =>
    let content := h.folder.readText path
    let (outcome, watch) := h.watch.process content
    { h with watch, looks := ⟨content, outcome⟩ :: h.looks }

def run (path : String) (h : History) (events : List Event) : History := events.foldl (step path) h

end History

def texts (looks : List Look) : List String := looks.filterMap fun look => look.content.toOption

/-- The content at the latest look that gave an update. -/
def lastUpdated? (looks : List Look) : Option String :=
  (looks.find? fun look => look.outcome.isUpdate).bind fun look => look.content.toOption

def ToldApart (digest : ByteArray → ByteArray) (texts : List String) : Prop :=
  ∀ a ∈ texts, ∀ b ∈ texts, digest a.toUTF8 = digest b.toUTF8 → a = b

theorem lastUpdated?_mem {looks : List Look} {text : String} (h : lastUpdated? looks = some text) :
    text ∈ texts looks := by
  obtain ⟨look, found, content⟩ := Option.bind_eq_some_iff.mp h
  exact List.mem_filterMap.mpr ⟨look, List.mem_of_find?_eq_some found, content⟩

theorem lastUpdated?_cons (look : Look) (looks : List Look) : lastUpdated? (look :: looks) =
    if look.outcome.isUpdate then look.content.toOption else lastUpdated? looks := by
  unfold lastUpdated?
  rw [List.find?_cons]
  cases look.outcome.isUpdate <;> rfl

/-- What a watch keeps if `last` is the content that gave the latest update. -/
structure Remembers (a : Analysis) (digest : ByteArray → ByteArray) (last : Option String)
    (w : Watch) : Prop where
  analysis_eq : w.analysis = a
  fingerprint_eq : w.fingerprint = digest
  lastFingerprint_eq : w.lastFingerprint = last.map fun text => digest text.toUTF8
  lastGraph_eq : w.lastGraph = last.bind fun text => (a.run text).toOption
  analysed : ∀ text, last = some text → ∃ g, a.run text = .ok g

/-- What a look gives, told by what was read and by the content that gave the latest update. -/
inductive Gives (a : Analysis) (last : Option String) : Except FileFault String → Outcome → Prop
  | unreadable (fault : FileFault) : Gives a last (.error fault) (.failed (.file fault))
  | unchanged (text : String) (same : last = some text) : Gives a last (.ok text) .unchanged
  | updated (text : String) (g : Graph) (changed : last ≠ some text) (ran : a.run text = .ok g) :
      Gives a last (.ok text) (.updated g)
  | refused (text : String) (error : Error) (changed : last ≠ some text)
      (ran : a.run text = .error error) : Gives a last (.ok text) (.failed error)

section
variable {a : Analysis} {digest : ByteArray → ByteArray} {last : Option String} {w : Watch}
  {content : Except FileFault String} {outcome : Outcome}

theorem Remembers.lastFingerprint_iff (h : Remembers a digest last w) {text : String}
    (apart : ∀ old, last = some old → digest old.toUTF8 = digest text.toUTF8 → old = text) :
    w.lastFingerprint = some (w.fingerprint text.toUTF8) ↔ last = some text := by
  rw [h.lastFingerprint_eq, h.fingerprint_eq, Option.map_eq_some_iff]
  constructor
  · rintro ⟨old, known, same⟩
    rw [known, apart old known same]
  · intro known
    exact ⟨text, known, rfl⟩

theorem process_of_changed {text : String}
    (changed : w.lastFingerprint ≠ some (w.fingerprint text.toUTF8)) :
    w.process (.ok text) =
      match w.analysis.run text with
      | .ok g => (.updated g, { w with
          lastFingerprint := some (w.fingerprint text.toUTF8), lastGraph := some g })
      | .error error => (.failed error, w) := if_neg changed

theorem Remembers.process (h : Remembers a digest last w)
    (apart : ∀ old text, last = some old → content = .ok text →
      digest old.toUTF8 = digest text.toUTF8 → old = text) :
    Gives a last content (w.process content).1 ∧
      (¬(w.process content).1.isUpdate → (w.process content).2 = w) ∧
      Remembers a digest (if (w.process content).1.isUpdate then content.toOption else last)
        (w.process content).2 := by
  cases content with
  | error fault => exact ⟨.unreadable fault, fun _ => rfl, h⟩
  | ok text =>
    have same := h.lastFingerprint_iff fun old known => apart old text known rfl
    by_cases known : last = some text
    · have looked : w.process (.ok text) = (.unchanged, w) := if_pos (same.mpr known)
      rw [looked]
      exact ⟨.unchanged text known, fun _ => rfl, h⟩
    · rw [process_of_changed (mt same.mp known), h.analysis_eq]
      cases ran : a.run text with
      | error error => exact ⟨.refused text error known ran, fun _ => rfl, h⟩
      | ok g =>
        refine ⟨.updated text g known ran, fun kept => absurd rfl kept, rfl, h.fingerprint_eq,
          congrArg (fun f => some (f text.toUTF8)) h.fingerprint_eq, ?_, ?_⟩
        · exact (congrArg Except.toOption ran).symm
        · rintro _ ⟨⟩
          exact ⟨g, ran⟩

theorem Gives.unchanged_iff (h : Gives a last content outcome) :
    outcome = .unchanged ↔ ∃ text, content = .ok text ∧ last = some text := by
  cases h with
  | unreadable fault => simp
  | unchanged text same => simp [same]
  | updated text g changed ran => simp [changed]
  | refused text error changed ran => simp [changed]

theorem Gives.failed_iff (h : Gives a last content outcome) (error : Error) :
    outcome = .failed error ↔ (∃ fault, content = .error fault ∧ error = .file fault) ∨
      ∃ text, content = .ok text ∧ last ≠ some text ∧ a.run text = .error error := by
  cases h with
  | unreadable fault => simp [eq_comm]
  | unchanged text same => simp [same]
  | updated text g changed ran => simp [ran]
  | refused text error changed ran => simp [changed, ran]

theorem Gives.updated_iff (h : Gives a last content outcome) (g : Graph) :
    outcome = .updated g ↔ ∃ text, content = .ok text ∧ last ≠ some text ∧ a.run text = .ok g := by
  cases h with
  | unreadable fault => simp
  | unchanged text same => simp [same]
  | updated text g changed ran => simp [changed, ran]
  | refused text error changed ran => simp [ran]

end

section
variable {a : Analysis} {digest : ByteArray → ByteArray} {path : String} {h : History}

theorem texts_cons_subset (look : Look) (looks : List Look) :
    texts looks ⊆ texts (look :: looks) :=
  List.filterMap_subset _ (List.subset_cons_self _ _)

theorem ToldApart.mono {texts more : List String} (apart : ToldApart digest more)
    (fewer : texts ⊆ more) : ToldApart digest texts :=
  fun a ha b hb => apart a (fewer ha) b (fewer hb)

theorem ToldApart.of_step (apart : ToldApart digest (texts (h.step path .look).looks))
    {old text : String} (known : lastUpdated? h.looks = some old)
    (read : h.folder.readText path = .ok text) (same : digest old.toUTF8 = digest text.toUTF8) :
    old = text := by
  refine apart old (texts_cons_subset _ _ (lastUpdated?_mem known)) text ?_ same
  exact List.mem_filterMap.mpr ⟨_, List.mem_cons_self, congrArg Except.toOption read⟩

theorem remembers_step (remembers : Remembers a digest (lastUpdated? h.looks) h.watch)
    (event : Event) (apart : ToldApart digest (texts (h.step path event).looks)) :
    Remembers a digest (lastUpdated? (h.step path event).looks) (h.step path event).watch := by
  cases event with
  | write bytes => exact remembers
  | remove => exact remembers
  | look =>
    have looked := remembers.process fun old text known read => apart.of_step known read
    show Remembers a digest (lastUpdated? (_ :: h.looks))
      (h.watch.process (h.folder.readText path)).2
    rw [lastUpdated?_cons]
    exact looked.2.2

theorem looks_subset_step (event : Event) : texts h.looks ⊆ texts (h.step path event).looks := by
  cases event with
  | look => exact texts_cons_subset _ _
  | _ => exact List.Subset.refl _

theorem looks_subset_run (events : List Event) :
    texts h.looks ⊆ texts (h.run path events).looks := by
  induction events generalizing h with
  | nil => exact List.Subset.refl _
  | cons event rest ih => exact List.Subset.trans (looks_subset_step event) ih

theorem remembers_run (remembers : Remembers a digest (lastUpdated? h.looks) h.watch)
    (events : List Event) (apart : ToldApart digest (texts (h.run path events).looks)) :
    Remembers a digest (lastUpdated? (h.run path events).looks) (h.run path events).watch := by
  induction events generalizing h with
  | nil => exact remembers
  | cons event rest ih =>
    have before : ToldApart digest (texts (h.step path event).looks) :=
      apart.mono (looks_subset_run rest)
    exact ih (remembers_step remembers event before) apart

end

/-- What a watch shows and what its next look does, told by the looks so far and by the file. -/
structure History.Consistent (a : Analysis) (path : String) (h : History) : Prop where
  current_of_none : lastUpdated? h.looks = none → h.watch.current? = none
  current_of_some : ∀ text, lastUpdated? h.looks = some text →
    ∃ g, a.run text = .ok g ∧ h.watch.current? = some g
  unchanged_iff : (h.watch.process (h.folder.readText path)).1 = .unchanged ↔
    ∃ text, h.folder.readText path = .ok text ∧ lastUpdated? h.looks = some text
  failed_iff : ∀ error, (h.watch.process (h.folder.readText path)).1 = .failed error ↔
    (∃ fault, h.folder.readText path = .error fault ∧ error = .file fault) ∨
      ∃ text, h.folder.readText path = .ok text ∧ lastUpdated? h.looks ≠ some text ∧
        a.run text = .error error
  updated_iff : ∀ g, (h.watch.process (h.folder.readText path)).1 = .updated g ↔
    ∃ text, h.folder.readText path = .ok text ∧ lastUpdated? h.looks ≠ some text ∧
      a.run text = .ok g
  kept : ¬(h.watch.process (h.folder.readText path)).1.isUpdate →
    (h.watch.process (h.folder.readText path)).2 = h.watch

/-- After any events the watch is consistent, if no two texts read up to the next look have the same
    fingerprint. -/
theorem process_after_history (parse : String → ParseNode) (settings : Settings)
    (digest : ByteArray → ByteArray) (folder : Folder) (path : String) (events : List Event)
    (apart : ToldApart digest (texts ((History.start folder (.ofSettings parse settings) digest).run
      path (events ++ [.look])).looks)) :
    ((History.start folder (.ofSettings parse settings) digest).run path events).Consistent
      (.ofSettings parse settings) path := by
  let a := Analysis.ofSettings parse settings
  let h := (History.start folder a digest).run path events
  have next : (History.start folder a digest).run path (events ++ [.look]) = h.step path .look :=
    List.foldl_append
  rw [next] at apart
  have start : Remembers a digest none (History.start folder a digest).watch :=
    ⟨rfl, rfl, rfl, rfl, fun text none => nomatch none⟩
  have remembers := remembers_run start events (apart.mono (looks_subset_step .look))
  obtain ⟨gives, kept, _⟩ := remembers.process fun old text known read =>
    apart.of_step known read
  constructor
  case current_of_none =>
    intro never
    rw [current?, remembers.lastGraph_eq, never]
    rfl
  case current_of_some =>
    intro text last
    obtain ⟨g, ran⟩ := remembers.analysed text last
    refine ⟨g, ran, ?_⟩
    rw [current?, remembers.lastGraph_eq, last, Option.bind_some, ran]
    rfl
  case unchanged_iff => exact gives.unchanged_iff
  case failed_iff => exact gives.failed_iff
  case updated_iff => exact gives.updated_iff
  case kept => exact kept

def brokenVariable : ParseNode :=
  .mk ⟨0, "program", ⟨0, 5⟩, true, false, false, false, true⟩ []
    [.mk ⟨1, "ERROR", ⟨0, 5⟩, true, false, true, false, true⟩ [] []]

def parseVariable (source : String) : ParseNode :=
  if source = "var x" then .oneVariable else brokenVariable

/-- The blake3 digests of `var x` and of `var =`. -/
def variableDigest (bytes : ByteArray) : ByteArray :=
  if bytes = "var x".toUTF8 then
    ⟨#[202, 215, 153, 186, 255, 186, 107, 5, 255, 151, 0, 146, 101, 185, 218, 202, 56, 130, 138, 3,
      169, 208, 109, 236, 73, 60, 13, 229, 218, 50, 96, 163]⟩
  else
    ⟨#[20, 246, 223, 55, 130, 140, 130, 169, 106, 30, 225, 39, 101, 85, 207, 93, 195, 246, 100, 115,
      71, 78, 2, 82, 66, 174, 211, 62, 110, 56, 183, 189]⟩

/-- A good text, bytes that are no text, a broken text and a missing file, and the good
    text again. -/
def restored : List Event :=
  [.write "var x".toUTF8, .look, .write ⟨#[0xff]⟩, .look, .write "var =".toUTF8, .look, .remove,
    .look, .write "var x".toUTF8]

theorem process_after_history_restored :
    let h := (History.start .empty (.ofSettings parseVariable {}) variableDigest).run "snippet.js"
      restored
    ToldApart variableDigest (texts (h.step "snippet.js" .look).looks) ∧
      (h.watch.process (h.folder.readText "snippet.js")).1 = .unchanged := by
  have read : texts ((History.start .empty (.ofSettings parseVariable {}) variableDigest).run
      "snippet.js" (restored ++ [.look])).looks = ["var x", "var =", "var x"] := by
    decide +kernel
  have apart : ToldApart variableDigest (texts ((History.start .empty (.ofSettings parseVariable {})
      variableDigest).run "snippet.js" (restored ++ [.look])).looks) := by
    rw [read]
    unfold ToldApart
    decide +kernel
  refine ⟨apart, ?_⟩
  apply (process_after_history parseVariable {} variableDigest .empty "snippet.js" restored
    apart).unchanged_iff.mpr
  refine ⟨"var x", ?_, ?_⟩
  · decide +kernel
  · decide +kernel

end CrossReference.Watch
