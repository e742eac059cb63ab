import CrossReference.Proofs.Element.Linked
import CrossReference.Proofs.ElementId.Text
import Mathlib.Algebra.Group.Nat.Defs
import Mathlib.Data.List.Nodup

set_option autoImplicit false

/-!
# Identities within a tree

The elements without a span are numbered in the order in which they enter their tree. So two
elements of a tree have the same identity only where they share a kind and a span, and their
identities stay what they were when they entered: `identified_of_built`.
-/
namespace CrossReference

def Position.ordinal? : Position → Option UInt32
  | .at _ => none
  | .synthetic ordinal => some ordinal

def Element.SharesPlace (a b : Element) : Prop :=
  a.kind = b.kind ∧ ∃ span, a.position = .at span ∧ b.position = .at span

namespace ElementTree

def identities (t : ElementTree) : List ElementId := t.elements.toList.map Element.id

def ordinals (t : ElementTree) : List UInt32 :=
  t.identities.filterMap fun id => id.position.ordinal?

theorem getElem?_identities (t : ElementTree) (i : Nat) : t.identities[i]? = t.id? i := by
  rw [identities, List.getElem?_map, Array.getElem?_toList]
  rfl

theorem length_identities (t : ElementTree) : t.identities.length = t.size := by
  simp [identities, size]

theorem identities_push (t : ElementTree) (parent : Nat) (kind : String) (span : Option Span)
    (shape : Shape) : (t.push parent kind span shape).identities =
      t.identities ++ [⟨kind, (t.nextPosition span).1⟩] := by
  apply List.ext_getElem?
  intro i
  rw [getElem?_identities, id?]
  rcases Nat.lt_trichotomy i t.size with before | here | beyond
  · rw [List.getElem?_append_left (by rw [length_identities]; exact before), getElem?_identities,
      id?, element?_push_of_lt t parent kind span shape before]
    split
    · rw [Option.map_map]; rfl
    · rfl
  · rw [here, element?_push_size, ← length_identities, List.getElem?_concat_length]
    rfl
  · rw [List.getElem?_eq_none, (element?_eq_none_iff _ i).mpr]
    · rfl
    · rw [size_push]; exact beyond
    · rw [List.length_append, length_identities]; exact beyond

theorem identities_modifyShape (t : ElementTree) (i : Nat) (f : Shape → Shape) :
    (t.modifyShape i f).identities = t.identities := by
  apply List.ext_getElem?
  intro j
  rw [getElem?_identities, getElem?_identities, id?, id?, element?_modifyShape]
  split
  · rw [Option.map_map]; rfl
  · rfl

theorem id?_modifyShape (t : ElementTree) (i j : Nat) (f : Shape → Shape) :
    (t.modifyShape i f).id? j = t.id? j := by
  rw [← getElem?_identities, identities_modifyShape, getElem?_identities]

/-- The ordinals are given out one after the other, and the next one is the number of
    those given. -/
structure Numbered (t : ElementTree) : Prop where
  ordinals_eq : t.ordinals = (List.range t.ordinals.length).map UInt32.ofNat
  next_eq : t.nextOrdinal = UInt32.ofNat t.ordinals.length

theorem numbered_new (kind : String) (span : Option Span) : (new kind span).Numbered := by
  cases span <;> exact ⟨rfl, rfl⟩

theorem numbered_push {t : ElementTree} (numbered : t.Numbered) (parent : Nat) (kind : String)
    (span : Option Span) (shape : Shape) : (t.push parent kind span shape).Numbered := by
  have entered : (t.push parent kind span shape).ordinals = t.ordinals ++
      [(⟨kind, (t.nextPosition span).1⟩ : ElementId)].filterMap fun id => id.position.ordinal? := by
    rw [ordinals, identities_push, List.filterMap_append, ordinals]
  have next : (t.push parent kind span shape).nextOrdinal = (t.nextPosition span).2 := rfl
  cases span with
  | some span =>
    have same : (t.push parent kind (some span) shape).ordinals = t.ordinals :=
      entered.trans (List.append_nil _)
    exact ⟨by rw [same]; exact numbered.ordinals_eq, by rw [same, next]; exact numbered.next_eq⟩
  | none =>
    have one : (t.push parent kind none shape).ordinals = t.ordinals ++ [t.nextOrdinal] := entered
    constructor
    · rw [one, List.length_append, List.length_singleton, List.range_succ, List.map_append,
        ← numbered.ordinals_eq, numbered.next_eq]
      rfl
    · rw [one, List.length_append, List.length_singleton, UInt32.ofNat_add, ← numbered.next_eq,
        next]
      rfl

theorem numbered_modifyShape {t : ElementTree} (numbered : t.Numbered) (i : Nat)
    (f : Shape → Shape) : (t.modifyShape i f).Numbered := by
  have same : (t.modifyShape i f).ordinals = t.ordinals := by
    rw [ordinals, identities_modifyShape, ordinals]
  exact ⟨by rw [same]; exact numbered.ordinals_eq, by rw [same]; exact numbered.next_eq⟩

theorem Built.numbered {t : ElementTree} (built : t.Built) : t.Numbered := by
  induction built with
  | new kind span => exact numbered_new kind span
  | push _ parent _ kind span shape ih => exact numbered_push ih parent kind span shape
  | setShape _ i shape ih => exact numbered_modifyShape ih i fun _ => shape
  | setRole _ i role ih => exact numbered_modifyShape ih i (Shape.setRole role)

/-- As long as the numbers do not run out, no ordinal is given twice. -/
theorem Numbered.nodup_ordinals {t : ElementTree} (numbered : t.Numbered)
    (few : t.size < UInt32.size) : t.ordinals.Nodup := by
  have length : t.ordinals.length ≤ t.size := by
    rw [ordinals, ← length_identities]
    exact List.length_filterMap_le _ _
  rw [numbered.ordinals_eq]
  refine List.Nodup.map_on ?_ List.nodup_range
  intro a ha b hb same
  have small {n : Nat} (h : n ∈ List.range t.ordinals.length) : n < UInt32.size :=
    Nat.lt_trans (Nat.lt_of_lt_of_le (List.mem_range.mp h) length) few
  rw [← UInt32.toNat_ofNat_of_lt' (small ha), same, UInt32.toNat_ofNat_of_lt' (small hb)]

variable {t : ElementTree} {i j : Nat} {a b : Element}

theorem Numbered.ordinal_ne (numbered : t.Numbered) (few : t.size < UInt32.size) (less : i < j)
    (ha : t.element? i = some a) (hb : t.element? j = some b) {m n : UInt32}
    (first : a.position = .synthetic m) (second : b.position = .synthetic n) : m ≠ n := by
  have apart := List.pairwise_filterMap.mp (numbered.nodup_ordinals few)
  have here {k : Nat} {e : Element} (found : t.element? k = some e) :
      ∃ inside : k < t.identities.length, t.identities[k] = e.id := by
    apply List.getElem?_eq_some_iff.mp
    rw [getElem?_identities, id?, found]
    rfl
  obtain ⟨insideA, idA⟩ := here ha
  obtain ⟨insideB, idB⟩ := here hb
  refine List.pairwise_iff_getElem.mp apart i j insideA insideB less m ?_ n ?_
  · rw [idA, Element.id, first]
    rfl
  · rw [idB, Element.id, second]
    rfl

theorem Numbered.id_eq_iff_sharesPlace (numbered : t.Numbered) (few : t.size < UInt32.size)
    (ne : i ≠ j) (ha : t.element? i = some a) (hb : t.element? j = some b) :
    a.id = b.id ↔ a.SharesPlace b := by
  constructor
  · intro same
    obtain ⟨kind, position⟩ := ElementId.mk.inj same
    refine ⟨kind, ?_⟩
    cases place : a.position with
    | «at» span => exact ⟨span, rfl, position.symm.trans place⟩
    | synthetic n =>
      have other : b.position = .synthetic n := position.symm.trans place
      rcases Nat.lt_or_gt_of_ne ne with less | less
      · exact absurd rfl (numbered.ordinal_ne few less ha hb place other)
      · exact absurd rfl (numbered.ordinal_ne few less hb ha other place)
  · rintro ⟨kind, span, first, second⟩
    rw [Element.id, Element.id, kind, first, second]

/-- What the identities of a tree tell of its elements, now and after one more change. -/
structure Identified (t : ElementTree) : Prop where
  id_eq_iff : ∀ i j a b, i ≠ j → t.element? i = some a → t.element? j = some b →
    (a.id = b.id ↔ a.SharesPlace b)
  text_eq_iff : ∀ i j a b, i ≠ j → t.element? i = some a → t.element? j = some b →
    (a.id.text = b.id.text ↔ a.SharesPlace b)
  spanless : ∀ i j a b, i ≠ j → t.element? i = some a → t.element? j = some b →
    a.id.span? = none → a.id ≠ b.id ∧ a.id.text ≠ b.id.text
  setShape : ∀ i k shape, (t.setShape k shape).id? i = t.id? i
  setRole : ∀ i k role, (t.setRole k role).id? i = t.id? i
  push : ∀ parent kind span shape, (∀ i < t.size, (t.push parent kind span shape).id? i = t.id? i) ∧
    ∃ id, (t.push parent kind span shape).id? t.size = some id ∧ id.kind = kind ∧ id.span? = span

theorem identified_of_built (built : t.Built) (few : t.size < 2 ^ 32) : t.Identified := by
  have ids {i j : Nat} {a b : Element} (ne : i ≠ j) (ha : t.element? i = some a)
      (hb : t.element? j = some b) : a.id = b.id ↔ a.SharesPlace b :=
    built.numbered.id_eq_iff_sharesPlace few ne ha hb
  have texts {a b : Element} : a.id.text = b.id.text ↔ a.id = b.id :=
    ⟨ElementId.text_injective, congrArg ElementId.text⟩
  constructor
  case id_eq_iff => exact fun i j a b ne ha hb => ids ne ha hb
  case text_eq_iff => exact fun i j a b ne ha hb => texts.trans (ids ne ha hb)
  case spanless =>
    intro i j a b ne ha hb none
    have differ : a.id ≠ b.id := by
      rw [ne_eq, ids ne ha hb]
      rintro ⟨_, span, first, _⟩
      rw [ElementId.span?, Element.id, first] at none
      cases none
    exact ⟨differ, mt texts.mp differ⟩
  case setShape => exact fun i k shape => id?_modifyShape t k i _
  case setRole => exact fun i k role => id?_modifyShape t k i _
  case push =>
    intro parent kind span shape
    constructor
    · intro i inside
      rw [← getElem?_identities, identities_push, List.getElem?_append_left, getElem?_identities]
      rw [length_identities]
      exact inside
    · refine ⟨⟨kind, (t.nextPosition span).1⟩, ?_, rfl, ?_⟩
      · rw [← getElem?_identities, identities_push, ← length_identities,
          List.getElem?_concat_length]
      · cases span <;> rfl

/-- The kind of one element is the text of another identity, and two share a place. -/
def lookalikes : ElementTree :=
  ((((new "a" none).push 0 "a-#0" none .other).push 1 "a" (some ⟨0, 1⟩) .other).push 0 "a"
    (some ⟨0, 1⟩) .other).setShape 2 (.identifier "x" .read)

theorem built_lookalikes : lookalikes.Built :=
  .setShape (.push (.push (.push (.new "a" none) 0 (by decide) "a-#0" none .other) 1 (by decide) "a"
    (some ⟨0, 1⟩) .other) 0 (by decide) "a" (some ⟨0, 1⟩) .other) 2 (.identifier "x" .read)

theorem identified_of_built_lookalikes : lookalikes.Built ∧ lookalikes.size < 2 ^ 32 ∧
    ∃ a b c d, lookalikes.element? 0 = some a ∧ lookalikes.element? 1 = some b ∧
      lookalikes.element? 2 = some c ∧ lookalikes.element? 3 = some d ∧
      a.id.text ≠ b.id.text ∧ b.id.text ≠ c.id.text ∧ c.id.text = d.id.text := by
  have identified := identified_of_built built_lookalikes (by decide)
  exact ⟨built_lookalikes, by decide, _, _, _, _, rfl, rfl, rfl, rfl,
    (identified.spanless 0 1 _ _ (by decide) rfl rfl rfl).2,
    (identified.spanless 1 2 _ _ (by decide) rfl rfl rfl).2,
    (identified.text_eq_iff 2 3 _ _ (by decide) rfl rfl).mpr ⟨rfl, ⟨0, 1⟩, rfl, rfl⟩⟩

end ElementTree
end CrossReference
