import CrossReference.Element.Tree
import Mathlib.Data.List.Basic

set_option autoImplicit false

/-!
# Links between elements

In a tree that is built by appending elements, parents have smaller numbers than their children and
the children of an element are exactly the elements whose parent it is, in order. An element's kind,
position, parent and name are its outline: it is fixed when the element enters the tree.
-/
namespace CrossReference

structure Element.Outline where
  kind : String
  position : Position
  parent : Option Nat
  name? : Option String
deriving DecidableEq

def Element.outline (e : Element) : Outline := ⟨e.kind, e.position, e.parent, e.name?⟩

namespace ElementTree

def outlines (t : ElementTree) : List Element.Outline := t.elements.toList.map Element.outline

def parent? (t : ElementTree) (i : Nat) : Option Nat := (t.element? i).bind Element.parent

structure Linked (t : ElementTree) : Prop where
  nonempty : 0 < t.size
  parent_lt : ∀ i p : Nat, t.parent? i = some p → p < i
  children_eq : ∀ (i : Nat) (e : Element), t.element? i = some e →
    e.children.toList = (List.range t.size).filter fun j => t.parent? j = some i

inductive Built : ElementTree → Prop
  | new (kind : String) (span : Option Span) : Built (new kind span)
  | push {t : ElementTree} (built : Built t) (parent : Nat) (inside : parent < t.size)
      (kind : String) (span : Option Span) (shape : Shape) :
      Built (t.push parent kind span shape)
  | setShape {t : ElementTree} (built : Built t) (i : Nat) (shape : Shape) :
      Built (t.setShape i shape)
  | setRole {t : ElementTree} (built : Built t) (i : Nat) (role : Role) : Built (t.setRole i role)

theorem length_outlines (t : ElementTree) : t.outlines.length = t.size := by
  simp [outlines, size]

theorem getElem?_outlines (t : ElementTree) (i : Nat) :
    t.outlines[i]? = (t.element? i).map Element.outline := by
  simp [outlines, element?]

theorem parent?_eq (t : ElementTree) (i : Nat) :
    t.parent? i = t.outlines[i]?.bind Element.Outline.parent := by
  rw [getElem?_outlines, parent?]
  cases t.element? i <;> rfl

theorem exists_element {t : ElementTree} {i : Nat} (h : i < t.size) :
    ∃ e, t.element? i = some e := ⟨t.elements[i], Array.getElem?_eq_getElem h⟩

theorem lt_size_of_element {t : ElementTree} {i : Nat} {e : Element} (h : t.element? i = some e) :
    i < t.size := (Array.getElem?_eq_some_iff.mp h).1

theorem lt_size_of_parent {t : ElementTree} {i p : Nat} (h : t.parent? i = some p) :
    i < t.size := by
  obtain ⟨e, found, _⟩ := Option.bind_eq_some_iff.mp h
  exact lt_size_of_element found

theorem childrenOf_eq {t : ElementTree} {i : Nat} {e : Element} (h : t.element? i = some e) :
    t.childrenOf i = e.children.toList := by
  rw [childrenOf, h]
  rfl

theorem outlines_new (kind : String) (span : Option Span) :
    ∃ position, (new kind span).outlines = [⟨kind, position, none, none⟩] ∧
      (∀ s, span = some s → position = .at s) := by
  cases span with
  | none => exact ⟨_, rfl, fun s h => nomatch h⟩
  | some s => exact ⟨.at s, rfl, fun s' h => by cases h; rfl⟩

theorem outlines_push (t : ElementTree) (parent : Nat) (kind : String) (span : Option Span)
    (shape : Shape) : (t.push parent kind span shape).outlines =
      t.outlines ++ [Element.outline ⟨kind, (t.nextPosition span).1, some parent, #[], shape⟩] := by
  apply List.ext_getElem?
  intro i
  rcases Nat.lt_trichotomy i t.size with before | here | beyond
  · rw [List.getElem?_append_left (by rw [length_outlines]; exact before), getElem?_outlines,
      getElem?_outlines, element?_push_of_lt t parent kind span shape before]
    split
    · rw [Option.map_map]; rfl
    · rfl
  · subst here
    rw [getElem?_outlines, element?_push_size, ← length_outlines, List.getElem?_concat_length]
    rfl
  · rw [List.getElem?_eq_none, List.getElem?_eq_none]
    · simp only [List.length_append, length_outlines, List.length_singleton]; omega
    · simp only [length_outlines, size_push]; omega

theorem outlines_modifyShape (t : ElementTree) (i : Nat) (f : Shape → Shape)
    (keeps : ∀ e, t.element? i = some e → { e with shape := f e.shape }.name? = e.name?) :
    (t.modifyShape i f).outlines = t.outlines := by
  apply List.ext_getElem?
  intro j
  rw [getElem?_outlines, getElem?_outlines, element?_modifyShape]
  split
  · next same =>
    subst same
    cases found : t.element? i with
    | none => rfl
    | some e =>
      have keeps := keeps e found
      simp only [Option.map_some, Element.outline, keeps]
  · rfl

theorem outlines_setRole (t : ElementTree) (i : Nat) (role : Role) :
    (t.setRole i role).outlines = t.outlines := by
  apply outlines_modifyShape
  intro e _
  unfold Element.name? Shape.setRole
  cases e.shape <;> rfl

theorem parent?_push (t : ElementTree) (parent : Nat) (kind : String) (span : Option Span)
    (shape : Shape) (i : Nat) : (t.push parent kind span shape).parent? i =
      if i = t.size then some parent else t.parent? i := by
  rw [parent?_eq, parent?_eq, outlines_push, ← length_outlines]
  split
  · next same => rw [same, List.getElem?_concat_length]; rfl
  · next other =>
    rcases Nat.lt_or_gt_of_ne other with before | beyond
    · rw [List.getElem?_append_left before]
    · rw [List.getElem?_eq_none, List.getElem?_eq_none (by omega)]
      rw [List.length_append, List.length_singleton]; omega

theorem parent?_modifyShape (t : ElementTree) (i j : Nat) (f : Shape → Shape) :
    (t.modifyShape i f).parent? j = t.parent? j := by
  rw [parent?, parent?, element?_modifyShape]
  split
  · cases t.element? j <;> rfl
  · rfl

theorem linked_new (kind : String) (span : Option Span) : (new kind span).Linked := by
  have orphan (i : Nat) : (new kind span).parent? i = none := by
    obtain ⟨position, outlines, _⟩ := outlines_new kind span
    rw [parent?_eq, outlines]
    cases i <;> rfl
  refine ⟨by cases span <;> exact Nat.zero_lt_one, ?_, ?_⟩
  · intro i p h
    rw [orphan] at h
    cases h
  · intro i e h
    have only : i = 0 := Nat.lt_one_iff.mp (by
      have := lt_size_of_element h
      cases span <;> exact this)
    subst only
    have leaf : e.children = #[] := by
      cases span <;> (cases h; rfl)
    simp [leaf, orphan]

theorem linked_push {t : ElementTree} (linked : t.Linked) (parent : Nat) (inside : parent < t.size)
    (kind : String) (span : Option Span) (shape : Shape) :
    (t.push parent kind span shape).Linked := by
  have parents := parent?_push t parent kind span shape
  refine ⟨by rw [size_push]; omega, ?_, ?_⟩
  · intro i p h
    rw [parents] at h
    split at h
    · next same => cases h; omega
    · exact linked.parent_lt i p h
  · intro i e h
    -- the new element is the last child of its parent and of no other
    have split : (List.range (t.push parent kind span shape).size).filter
          (fun j => (t.push parent kind span shape).parent? j = some i) =
        (List.range t.size).filter (fun j => t.parent? j = some i) ++
          if parent = i then [t.size] else [] := by
      rw [size_push, List.range_succ, List.filter_append]
      congr 1
      · apply List.filter_congr
        intro j hj
        rw [parents, if_neg (Nat.ne_of_lt (List.mem_range.mp hj))]
      · simp [parents, List.filter_cons]
    rw [split]
    rcases Nat.lt_or_ge i t.size with before | here
    · rw [element?_push_of_lt t parent kind span shape before] at h
      obtain ⟨old, found⟩ := exists_element before
      have children := linked.children_eq i old found
      rw [found] at h
      split at h
      · cases h
        simp [*]
      · cases h
        simp [*]
    · have last : i = t.size := by
        have within := lt_size_of_element h
        rw [size_push] at within
        omega
      subst last
      rw [element?_push_size] at h
      cases h
      rw [if_neg (Nat.ne_of_lt inside), List.append_nil, eq_comm]
      apply List.filter_eq_nil_iff.mpr
      intro j hj
      simp only [decide_eq_true_eq]
      intro eq
      have := linked.parent_lt j _ eq
      have := List.mem_range.mp hj
      omega

theorem linked_modifyShape {t : ElementTree} (linked : t.Linked) (i : Nat) (f : Shape → Shape) :
    (t.modifyShape i f).Linked := by
  refine ⟨by rw [size_modifyShape]; exact linked.nonempty, ?_, ?_⟩
  · intro j p h
    rw [parent?_modifyShape] at h
    exact linked.parent_lt j p h
  · intro j e h
    rw [element?_modifyShape] at h
    have children : ∃ old, t.element? j = some old ∧ e.children = old.children := by
      split at h
      · obtain ⟨old, found, eq⟩ := Option.map_eq_some_iff.mp h
        exact ⟨old, found, by rw [← eq]⟩
      · exact ⟨e, h, rfl⟩
    obtain ⟨old, found, same⟩ := children
    simp only [same, linked.children_eq j old found, size_modifyShape, parent?_modifyShape]

theorem Built.linked {t : ElementTree} (built : t.Built) : t.Linked := by
  induction built with
  | new kind span => exact linked_new kind span
  | push _ parent inside kind span shape ih => exact linked_push ih parent inside kind span shape
  | setShape _ i shape ih => exact linked_modifyShape ih i fun _ => shape
  | setRole _ i role ih => exact linked_modifyShape ih i (Shape.setRole role)

end ElementTree
end CrossReference
