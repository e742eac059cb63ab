import CrossReference.Proofs.Element.Reach

set_option autoImplicit false

/-!
# Searches that stay inside the tree

The walk over a tree, the way up to a function and the search for a name go on past an element that
is not there, and stop when their steps are used up. The relations here allow neither: each element
that a search comes to is in the tree, and the search ends of itself.
-/
namespace CrossReference.ElementTree

/-- Visiting the elements on a stack and all below them, in that order. -/
inductive Visits (t : ElementTree) : List Nat → List Nat → Prop
  | done : Visits t [] []
  | next {i : Nat} {e : Element} {stack order : List Nat} (found : t.element? i = some e)
      (rest : Visits t (e.children.toList ++ stack) order) : Visits t (i :: stack) (i :: order)

/-- Going up from an element until there is a function, or to the root. -/
inductive FindsFunction (t : ElementTree) : Option Nat → Nat → Prop
  | top : FindsFunction t none root
  | here {i : Nat} {e : Element} (found : t.element? i = some e) (function : e.isFunction) :
      FindsFunction t (some i) i
  | above {i f : Nat} {e : Element} (found : t.element? i = some e)
      (other : e.isFunction = false) (rest : FindsFunction t e.parent f) :
      FindsFunction t (some i) f

inductive FindsName (t : ElementTree) : List Nat → Option String → Prop
  | nothing : FindsName t [] none
  | property {i : Nat} {e : Element} {name : String} {stack : List Nat} {result : Option String}
      (found : t.element? i = some e) (shape : e.shape = .identifier name .property)
      (rest : FindsName t stack result) : FindsName t (i :: stack) result
  | name {i : Nat} {e : Element} {name : String} {role : Role} {stack : List Nat}
      (found : t.element? i = some e) (shape : e.shape = .identifier name role)
      (ne : role ≠ .property) : FindsName t (i :: stack) (some name)
  | deeper {i : Nat} {e : Element} {stack : List Nat} {result : Option String}
      (found : t.element? i = some e) (nameless : e.name? = none)
      (rest : FindsName t (e.children.toList ++ stack) result) : FindsName t (i :: stack) result

structure Searched (t : ElementTree) : Prop where
  walk : t.Visits [root] t.walk
  function : ∀ i f, t.enclosingFunction? i = some f →
    ∃ e, t.element? i = some e ∧ t.FindsFunction e.parent f
  bindingName : ∀ i result, t.bindingName? i = some result → ∃ e, t.element? i = some e ∧
    (e.name?.isSome ∧ result = e.name? ∨ e.name? = none ∧ t.FindsName e.children.toList result)

variable {t : ElementTree}

theorem Visits.walkFrom_take {stack order : List Nat} (h : t.Visits stack order) (steps : Nat) :
    t.walkFrom steps stack = order.take steps := by
  induction h generalizing steps with
  | done => cases steps <;> rfl
  | next found rest ih =>
    cases steps with
    | zero => rfl
    | succ steps => rw [walkFrom, childrenOf_eq found, ih, List.take_succ_cons]

theorem Visits.walkFrom_eq {stack order : List Nat} (h : t.Visits stack order) {steps : Nat}
    (enough : order.length ≤ steps) : t.walkFrom steps stack = order := by
  rw [h.walkFrom_take, List.take_of_length_le enough]

theorem Visits.exists_suffix {first stack order : List Nat} (h : t.Visits (first ++ stack) order) :
    ∃ later, t.Visits stack later ∧ later.length ≤ order.length := by
  generalize whole : first ++ stack = all at h
  induction h generalizing first with
  | done =>
    obtain ⟨rfl, rfl⟩ := List.append_eq_nil_iff.mp whole
    exact ⟨[], .done, Nat.le_refl _⟩
  | @next i e rest order found visits ih =>
    cases first with
    | nil =>
      subst whole
      exact ⟨i :: order, .next found visits, Nat.le_refl _⟩
    | cons j first =>
      obtain ⟨rfl, rfl⟩ := List.cons_eq_cons.mp whole
      obtain ⟨later, visits, short⟩ := ih (List.append_assoc _ first stack)
      exact ⟨later, visits, Nat.le_succ_of_le short⟩

theorem Visits.findsName {stack order : List Nat} (h : t.Visits stack order) {steps : Nat}
    (enough : order.length ≤ steps) : t.FindsName stack (t.nameFrom steps stack) := by
  induction steps generalizing stack order with
  | zero =>
    cases h with
    | done => exact .nothing
    | next found rest => cases enough
  | succ steps ih =>
    cases h with
    | done => exact .nothing
    | @next i e stack order found rest =>
      have enough : order.length ≤ steps := Nat.le_of_succ_le_succ enough
      rw [nameFrom, found, Option.map_some]
      cases shape : e.shape
      case identifier name role =>
        cases role
        case property =>
          obtain ⟨later, visits, short⟩ := rest.exists_suffix
          exact .property found shape (ih visits (Nat.le_trans short enough))
        all_goals exact .name found shape nofun
      all_goals
        rw [childrenOf_eq found]
        exact .deeper found (by rw [Element.name?, shape]) (ih rest enough)

theorem findsFunction_of_linked (linked : t.Linked) {i : Nat} {e : Element}
    (found : t.element? i = some e) : t.FindsFunction e.parent (t.functionAround i) := by
  induction i using Nat.strongRecOn generalizing e with
  | ind i ih =>
    have parent : t.parent? i = e.parent := by
      rw [parent?, found]
      rfl
    cases up : e.parent with
    | none =>
      rw [functionAround_of_orphan (parent.trans up)]
      exact .top
    | some p =>
      have less := linked.parent_lt i p (parent.trans up)
      obtain ⟨q, above⟩ := exists_element (Nat.lt_trans less (lt_size_of_element found))
      rw [functionAround_of_parent linked (parent.trans up), isFunction, above, Option.any_some]
      cases function : q.isFunction with
      | true => exact .here above function
      | false => exact .above above function (ih p less above)

end CrossReference.ElementTree
