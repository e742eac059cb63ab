import CrossReference.Lowering.Pattern
import CrossReference.Proofs.Element.Linked

set_option autoImplicit false

/-!
# Shapes that stay inside the tree

A shape refers to other elements by number. These references lead to elements of the tree as long as
only such shapes are given, whatever roles are changed.
-/
namespace CrossReference

def Shape.indices : Shape → List Nat
  | program | identifier _ _ | other => []
  | call callee arguments => callee :: arguments
  | declarator target initializer => target :: initializer.toList
  | returns argument => argument.toList
  | function name parameters body => name.toList ++ parameters ++ body.toList

theorem Shape.indices_setRole (role : Role) (shape : Shape) :
    (shape.setRole role).indices = shape.indices := by
  cases shape <;> rfl

namespace ElementTree

def ShapesInside (t : ElementTree) : Prop :=
  ∀ (i : Nat) (e : Element), t.element? i = some e → ∀ j ∈ e.shape.indices, j < t.size

theorem shapesInside_iff {t : ElementTree} :
    t.ShapesInside ↔ ∀ e ∈ t.elements, ∀ j ∈ e.shape.indices, j < t.size := by
  constructor
  · intro h e he
    obtain ⟨i, found⟩ := Array.mem_iff_getElem?.mp he
    exact h i e found
  · intro h i e found
    exact h e (Array.mem_of_getElem? found)

instance (t : ElementTree) : Decidable t.ShapesInside := decidable_of_iff _ shapesInside_iff.symm

theorem shapesInside_new (kind : String) (span : Option Span) :
    (new kind span).ShapesInside := by
  intro i e found j hj
  have only : i = 0 := Nat.lt_one_iff.mp (by
    have := lt_size_of_element found
    cases span <;> exact this)
  subst only
  have shape : e.shape = .program := by
    cases span <;> (cases found; rfl)
  rw [shape] at hj
  cases hj

theorem shapesInside_push {t : ElementTree} (h : t.ShapesInside) (parent : Nat) (kind : String)
    (span : Option Span) {shape : Shape} (inside : ∀ j ∈ shape.indices, j < t.size) :
    (t.push parent kind span shape).ShapesInside := by
  intro i e found j hj
  rw [size_push]
  apply Nat.lt_succ_of_lt
  rcases Nat.lt_or_ge i t.size with before | here
  · rw [element?_push_of_lt t parent kind span shape before] at found
    obtain ⟨old, foundOld⟩ := exists_element before
    have same : e.shape = old.shape := by
      rw [foundOld] at found
      split at found <;> (cases found; rfl)
    rw [same] at hj
    exact h i old foundOld j hj
  · have last : i = t.size := by
      have within := lt_size_of_element found
      rw [size_push] at within
      omega
    subst last
    rw [element?_push_size] at found
    cases found
    exact inside j hj

theorem shapesInside_modifyShape {t : ElementTree} (h : t.ShapesInside) (i : Nat)
    {f : Shape → Shape}
    (inside : ∀ e, t.element? i = some e → ∀ j ∈ (f e.shape).indices, j < t.size) :
    (t.modifyShape i f).ShapesInside := by
  intro k e found j hj
  rw [size_modifyShape]
  rw [element?_modifyShape] at found
  split at found
  · next same =>
    subst same
    obtain ⟨old, foundOld, eq⟩ := Option.map_eq_some_iff.mp found
    rw [← eq] at hj
    exact inside old foundOld j hj
  · exact h k e found j hj

theorem shapesInside_setRole {t : ElementTree} (h : t.ShapesInside) (i : Nat) (role : Role) :
    (t.setRole i role).ShapesInside := by
  apply shapesInside_modifyShape h
  intro e found j hj
  rw [Shape.indices_setRole] at hj
  exact h i e found j hj

/-- Marking a pattern gives roles and does nothing else. -/
theorem markPattern_preserves {P : ElementTree → Prop} {role : Role}
    (step : ∀ t i, P t → P (t.setRole i role)) {t : ElementTree} (h : P t) (pattern : Nat) :
    P (t.markPattern pattern role).2 := by
  rw [markPattern]
  simp only
  generalize t.boundElements pattern = bound
  induction bound generalizing t with
  | nil => exact h
  | cons i rest ih => exact ih (step t i h)

theorem outlines_markPattern (t : ElementTree) (pattern : Nat) (role : Role) :
    (t.markPattern pattern role).2.outlines = t.outlines :=
  markPattern_preserves (P := fun t' => t'.outlines = t.outlines)
    (fun t' i same => (outlines_setRole t' i role).trans same) rfl pattern

theorem linked_markPattern {t : ElementTree} (linked : t.Linked) (pattern : Nat) (role : Role) :
    (t.markPattern pattern role).2.Linked :=
  markPattern_preserves (P := Linked) (fun _ i h => linked_modifyShape h i _) linked pattern

theorem shapesInside_markPattern {t : ElementTree} (h : t.ShapesInside) (pattern : Nat)
    (role : Role) : (t.markPattern pattern role).2.ShapesInside :=
  markPattern_preserves (P := ShapesInside) (fun _ i h => shapesInside_setRole h i role) h pattern

theorem size_markPattern (t : ElementTree) (pattern : Nat) (role : Role) :
    (t.markPattern pattern role).2.size = t.size := by
  rw [← length_outlines, outlines_markPattern, length_outlines]

end ElementTree
end CrossReference
