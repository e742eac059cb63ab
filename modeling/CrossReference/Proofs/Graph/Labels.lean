import CrossReference.Graph.Build
import CrossReference.Proofs.Text.Excerpt

set_option autoImplicit false

/-!
# The length of labels

A label that shows source is as short as the options ask for, unless they ask for no characters at
all: an ellipsis stands even then. `label?_excerpt` says when.
-/
namespace CrossReference.GraphInput

open Text

/-- An element with a text is labelled with an excerpt of it, which exceeds the width only where the
    width is zero and the text has words: there it is an ellipsis. -/
theorem label?_excerpt (b : GraphInput) {i : ElementIndex} {source text : String}
    (mode : b.options.labels = .excerpt) (given : b.source = some source)
    (available : b.tree.text? i source = some (some text)) :
    ∃ label, b.label? i = some label ∧
      (label.length ≤ b.options.excerptWidth.toNat ↔
        0 < b.options.excerptWidth ∨ wordsOf text = []) ∧
      (b.options.excerptWidth = 0 → wordsOf text ≠ [] → label = "…") := by
  obtain ⟨e, found, slice⟩ := Option.bind_eq_some_iff.mp available
  refine ⟨excerpt text b.options.excerptWidth.toNat, ?_, ?_, ?_⟩
  · simp only [label?, mode, given, found, available, Option.bind_eq_bind, Option.bind_some]
  · rw [length_excerpt_le_iff, UInt64.lt_iff_toNat_lt]
    rfl
  · intro zero words
    rw [zero]
    exact excerpt_zero words

def brokenLine : ElementTree :=
  (ElementTree.new "program" (some ⟨0, 9⟩)).push 0 "binary_expression" (some ⟨1, 9⟩) .other

def brokenLineSource : String := " ab +\n  c"

def brokenLineInput (width : UInt64) : GraphInput where
  tree := brokenLine
  resolve _ _ := none
  source := some brokenLineSource
  options := { labels := .excerpt, excerptWidth := width }

theorem text?_brokenLine : brokenLine.text? 1 brokenLineSource = some (some "ab +\n  c") := by
  decide +kernel

theorem label?_excerpt_brokenLine : (brokenLineInput 4).options.labels = .excerpt ∧
    (brokenLineInput 4).source = some brokenLineSource ∧
    brokenLine.text? 1 brokenLineSource = some (some "ab +\n  c") ∧
    ∃ label, (brokenLineInput 4).label? 1 = some label ∧ label.length ≤ 4 := by
  obtain ⟨label, given, length, _⟩ :=
    label?_excerpt (brokenLineInput 4) rfl rfl text?_brokenLine
  exact ⟨rfl, rfl, text?_brokenLine, label, given, length.mpr (.inl (by decide))⟩

/-- No label of a text with words is as short as width zero asks for. -/
theorem ellipsis_exceeds_width_zero : ∃ (b : GraphInput) (i : ElementIndex) (source text : String),
    b.options.labels = .excerpt ∧ b.source = some source ∧
      b.tree.text? i source = some (some text) ∧
      ∃ label, b.label? i = some label ∧ ¬label.length ≤ b.options.excerptWidth.toNat := by
  refine ⟨brokenLineInput 0, 1, _, _, rfl, rfl, text?_brokenLine, "…", ?_, by decide⟩
  decide +kernel

end CrossReference.GraphInput
