import CrossReference.Proofs.Element.Linked

set_option autoImplicit false

/-!
# Above an element

In a linked tree the way up from an element ends at the root and does not leave the tree. The
function around an element is the first one on the way up.
-/
namespace CrossReference.ElementTree

def ancestorsFrom (t : ElementTree) : Nat → Nat → List Nat
  | 0, _ => []
  | steps + 1, i =>
    match t.parent? i with
    | none => []
    | some p => p :: ancestorsFrom t steps p

def ancestors (t : ElementTree) (i : Nat) : List Nat := t.ancestorsFrom t.size i

/-- Parents have smaller numbers, so as many steps as the number says lead to the root. -/
theorem ancestorsFrom_eq {t : ElementTree} (linked : t.Linked) (i : Nat) {a b : Nat}
    (ha : i ≤ a) (hb : i ≤ b) : t.ancestorsFrom a i = t.ancestorsFrom b i := by
  induction i using Nat.strongRecOn generalizing a b with
  | ind i ih =>
    have stop {steps : Nat} (orphan : t.parent? i = none) : t.ancestorsFrom steps i = [] := by
      cases steps with
      | zero => rfl
      | succ steps => rw [ancestorsFrom, orphan]
    cases parent : t.parent? i with
    | none => rw [stop parent, stop parent]
    | some p =>
      have less := linked.parent_lt i p parent
      obtain ⟨a, rfl⟩ : ∃ n, a = n + 1 := ⟨a - 1, by omega⟩
      obtain ⟨b, rfl⟩ : ∃ n, b = n + 1 := ⟨b - 1, by omega⟩
      -- the parent has a smaller number, so the steps that are left are enough for it
      have above : t.ancestorsFrom a p = t.ancestorsFrom b p :=
        ih p less (by omega) (by omega)
      rw [ancestorsFrom, ancestorsFrom, parent]
      simp only [above]

theorem ancestors_of_parent {t : ElementTree} (linked : t.Linked) {i p : Nat}
    (parent : t.parent? i = some p) : t.ancestors i = p :: t.ancestors p := by
  have less := linked.parent_lt i p parent
  have inside := lt_size_of_parent parent
  obtain ⟨n, size⟩ : ∃ n, t.size = n + 1 := ⟨t.size - 1, by omega⟩
  rw [ancestors, ancestors, size, ancestorsFrom, parent]
  simp only
  rw [ancestorsFrom_eq linked p (show p ≤ n by omega) (show p ≤ n + 1 by omega)]

theorem ancestors_of_orphan {t : ElementTree} {i : Nat} (orphan : t.parent? i = none) :
    t.ancestors i = [] := by
  rw [ancestors]
  cases t.size with
  | zero => rfl
  | succ steps => rw [ancestorsFrom, orphan]

theorem lt_of_mem_ancestors {t : ElementTree} (linked : t.Linked) {i a : Nat}
    (h : a ∈ t.ancestors i) : a < i := by
  induction i using Nat.strongRecOn with
  | ind i ih =>
    cases parent : t.parent? i with
    | none =>
      rw [ancestors_of_orphan parent] at h
      cases h
    | some p =>
      have less := linked.parent_lt i p parent
      rw [ancestors_of_parent linked parent] at h
      rcases List.mem_cons.mp h with same | above
      · omega
      · exact Nat.lt_trans (ih p less above) less

def isFunction (t : ElementTree) (i : Nat) : Bool := (t.element? i).any Element.isFunction

def functionAround (t : ElementTree) (i : Nat) : Nat :=
  ((t.ancestors i).find? t.isFunction).getD root

theorem functionAbove_eq (t : ElementTree) (steps i : Nat) :
    t.functionAbove steps (t.parent? i) =
      ((t.ancestorsFrom steps i).find? t.isFunction).getD root := by
  induction steps generalizing i with
  | zero => rfl
  | succ steps ih =>
    rw [ancestorsFrom]
    cases parent : t.parent? i with
    | none => rfl
    | some p =>
      rw [functionAbove]
      simp only
      rw [List.find?_cons, isFunction]
      cases found : t.element? p with
      | none =>
        have orphan : t.parent? p = none := by
          rw [parent?, found]
          rfl
        cases steps with
        | zero => rfl
        | succ steps =>
          rw [ancestorsFrom, orphan]
          rfl
      | some e =>
        have above := ih p
        rw [parent?, found, Option.bind_some] at above
        rw [Option.any_some]
        by_cases function : e.isFunction
        · simp [function]
        · simp [function, above]

theorem enclosingFunction?_eq {t : ElementTree} {i : Nat} (inside : i < t.size) :
    t.enclosingFunction? i = some (t.functionAround i) := by
  obtain ⟨e, found⟩ := exists_element inside
  have above := functionAbove_eq t t.size i
  rw [parent?, found, Option.bind_some] at above
  rw [enclosingFunction?, found, Option.map_some, above]
  rfl

theorem functionAround_of_orphan {t : ElementTree} {i : Nat} (orphan : t.parent? i = none) :
    t.functionAround i = root := by
  rw [functionAround, ancestors_of_orphan orphan]
  rfl

theorem functionAround_of_parent {t : ElementTree} (linked : t.Linked) {i p : Nat}
    (parent : t.parent? i = some p) :
    t.functionAround i = if t.isFunction p then p else t.functionAround p := by
  rw [functionAround, ancestors_of_parent linked parent, List.find?_cons]
  cases t.isFunction p <;> rfl

theorem functionAround_lt_size {t : ElementTree} (linked : t.Linked) {i : Nat}
    (inside : i < t.size) : t.functionAround i < t.size := by
  rw [functionAround]
  cases function : (t.ancestors i).find? t.isFunction with
  | none => exact linked.nonempty
  | some a =>
    exact Nat.lt_trans (lt_of_mem_ancestors linked (List.mem_of_find?_eq_some function)) inside

end CrossReference.ElementTree
