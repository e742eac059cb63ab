import CrossReference.Proofs.Element.Inside

set_option autoImplicit false

/-!
# Roles under several marks

An identifier that is marked more than once has the role of its last mark.
-/
namespace CrossReference

def Element.role? (e : Element) : Option Role :=
  match e.shape with
  | .identifier _ role => some role
  | _ => none

theorem Element.role?_eq_some_iff {e : Element} {role : Role} :
    e.role? = some role ↔ ∃ name, e.shape = .identifier name role := by
  unfold role?
  cases e.shape <;> simp

theorem Element.role?_eq_none_iff {e : Element} : e.role? = none ↔ e.name? = none := by
  unfold role? name?
  cases e.shape <;> simp

/-- The role that an element of a given role has after marks of numbered elements. -/
def roleAfter (i : Nat) (role : Role) (marks : List (Nat × Role)) : Role :=
  marks.foldl (fun role mark => if mark.1 = i then mark.2 else role) role

theorem roleAfter_append (i : Nat) (role : Role) (a b : List (Nat × Role)) :
    roleAfter i role (a ++ b) = roleAfter i (roleAfter i role a) b := List.foldl_append

theorem roleAfter_eq {i : Nat} {role last : Role} {marks : List (Nat × Role)}
    (agree : ∀ mark ∈ marks, mark.1 = i → mark.2 = last)
    (marked : role = last ∨ ∃ mark ∈ marks, mark.1 = i) : roleAfter i role marks = last := by
  induction marks generalizing role with
  | nil =>
    rcases marked with same | ⟨mark, hm, _⟩
    · exact same
    · cases hm
  | cons first rest ih =>
    have later := fun mark hm => agree mark (List.mem_cons_of_mem first hm)
    show roleAfter i (if first.1 = i then first.2 else role) rest = last
    by_cases here : first.1 = i
    · rw [if_pos here]
      exact ih later (.inl (agree first List.mem_cons_self here))
    · rw [if_neg here]
      apply ih later
      rcases marked with same | ⟨mark, hm, eq⟩
      · exact .inl same
      · rcases List.mem_cons.mp hm with same | hm
        · exact absurd (same ▸ eq) here
        · exact .inr ⟨mark, hm, eq⟩

namespace ElementTree

def role? (t : ElementTree) (i : Nat) : Option Role := (t.element? i).bind Element.role?

theorem role?_eq {t : ElementTree} {i : Nat} {e : Element} (found : t.element? i = some e) :
    t.role? i = e.role? := by
  rw [role?, found, Option.bind_some]

def setRoles (t : ElementTree) (marks : List (Nat × Role)) : ElementTree :=
  marks.foldl (fun t mark => t.setRole mark.1 mark.2) t

theorem setRoles_append (t : ElementTree) (a b : List (Nat × Role)) :
    t.setRoles (a ++ b) = (t.setRoles a).setRoles b := List.foldl_append

theorem role?_setRole (t : ElementTree) (i j : Nat) (role : Role) :
    (t.setRole i role).role? j = (t.role? j).map fun old => if i = j then role else old := by
  rw [role?, role?, setRole, element?_modifyShape]
  cases t.element? j with
  | none => split <;> rfl
  | some e =>
    unfold Element.role? Shape.setRole
    split <;> cases shape : e.shape <;> simp_all

theorem role?_setRoles (t : ElementTree) (marks : List (Nat × Role)) (i : Nat) :
    (t.setRoles marks).role? i = (t.role? i).map fun role => roleAfter i role marks := by
  induction marks generalizing t with
  | nil => exact (Option.map_id' ..).symm
  | cons mark rest ih =>
    refine (ih (t.setRole mark.1 mark.2)).trans ?_
    rw [role?_setRole, Option.map_map]
    rfl

theorem role?_push_of_lt (t : ElementTree) (parent : Nat) (kind : String) (span : Option Span)
    (shape : Shape) {i : Nat} (inside : i < t.size) :
    (t.push parent kind span shape).role? i = t.role? i := by
  rw [role?, role?, element?_push_of_lt t parent kind span shape inside]
  split
  · cases t.element? i <;> rfl
  · rfl

/-- A shape without a name leaves the roles as they are, where no identifier gets it. -/
theorem role?_setShape (t : ElementTree) (i j : Nat) (shape : Shape)
    (nameless : ∀ name role, shape ≠ .identifier name role)
    (before : ∀ e, t.element? i = some e → e.name? = none) :
    (t.setShape i shape).role? j = t.role? j := by
  rw [role?, role?, setShape, element?_modifyShape]
  split
  · next same =>
    subst same
    cases found : t.element? i with
    | none => rfl
    | some e =>
      rw [Option.map_some, Option.bind_some, Option.bind_some,
        Element.role?_eq_none_iff.mpr (before e found)]
      cases shape with
      | identifier name role => exact absurd rfl (nameless name role)
      | _ => rfl
  · rfl

end ElementTree
end CrossReference
