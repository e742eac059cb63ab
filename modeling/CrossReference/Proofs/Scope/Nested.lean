import CrossReference.Proofs.Scope.Lookup
import Mathlib.Data.List.Find

set_option autoImplicit false

/-!
# Scopes that lie inside each other

A list of scopes is nested in a scope tree where each scope lies just inside the next and the last
is the module scope. Such a list is the chain of its first scope, so that it decides where a
declaration with `var` goes.
-/
namespace CrossReference.ScopeTree

def Nested (t : ScopeTree) : List (ScopeId × ScopeKind) → Prop
  | [] => False
  | [(s, kind)] => s = root ∧ kind = .module ∧ t.kind? s = some kind ∧ t.parent? s = none
  | (s, kind) :: (outer, outerKind) :: rest =>
    t.kind? s = some kind ∧ t.parent? s = some outer ∧ outer < s ∧
      t.Nested ((outer, outerKind) :: rest)

theorem nested_new : new.Nested [(root, .module)] := ⟨rfl, rfl, rfl, rfl⟩

theorem nested_congr {t t' : ScopeTree} (same : t'.scopes = t.scopes)
    {list : List (ScopeId × ScopeKind)} (h : t.Nested list) : t'.Nested list := by
  have kinds (s : ScopeId) : t'.kind? s = t.kind? s := by rw [kind?, kind?, same]
  have parents (s : ScopeId) : t'.parent? s = t.parent? s := by rw [parent?, parent?, same]
  induction list with
  | nil => exact h
  | cons first rest ih =>
    cases rest with
    | nil =>
      rw [Nested, kinds, parents]
      exact h
    | cons outer rest =>
      rw [Nested, kinds, parents]
      exact ⟨h.1, h.2.1, h.2.2.1, ih h.2.2.2⟩

theorem kind?_of_nested {t : ScopeTree} {s : ScopeId} {kind : ScopeKind}
    {rest : List (ScopeId × ScopeKind)} (h : t.Nested ((s, kind) :: rest)) :
    t.kind? s = some kind := by
  cases rest with
  | nil => exact h.2.2.1
  | cons outer rest => exact h.1

theorem lt_count_of_kind {t : ScopeTree} {s : ScopeId} {kind : ScopeKind}
    (h : t.kind? s = some kind) : s < t.count := by
  obtain ⟨scope, found, _⟩ := Option.map_eq_some_iff.mp h
  exact (Array.getElem?_eq_some_iff.mp found).1

theorem nested_tail {t : ScopeTree} {first outer : ScopeId × ScopeKind}
    {rest : List (ScopeId × ScopeKind)} (h : t.Nested (first :: outer :: rest)) :
    t.Nested (outer :: rest) := h.2.2.2

theorem length_le_of_nested {t : ScopeTree} {s : ScopeId} {kind : ScopeKind}
    {rest : List (ScopeId × ScopeKind)} (h : t.Nested ((s, kind) :: rest)) :
    rest.length ≤ s := by
  induction rest generalizing s kind with
  | nil => exact Nat.zero_le _
  | cons outer rest ih =>
    exact Nat.le_trans (Nat.succ_le_succ (ih h.2.2.2)) h.2.2.1

theorem nested_addScope {t : ScopeTree} {list : List (ScopeId × ScopeKind)} (h : t.Nested list)
    (parent : ScopeId) (kind : ScopeKind) : (t.addScope parent kind).Nested list := by
  induction list with
  | nil => exact h
  | cons first rest ih =>
    have old : first.1 ≠ t.count := Nat.ne_of_lt (lt_count_of_kind (kind?_of_nested h))
    cases rest with
    | nil =>
      obtain ⟨isRoot, isModule, kinds, parents⟩ := h
      refine ⟨isRoot, isModule, ?_, ?_⟩
      · rw [kind?_addScope, if_neg old, kinds]
      · rw [parent?_addScope, if_neg old, parents]
    | cons outer rest =>
      obtain ⟨kinds, parents, less, nested⟩ := h
      refine ⟨?_, ?_, less, ih nested⟩
      · rw [kind?_addScope, if_neg old, kinds]
      · rw [parent?_addScope, if_neg old, parents]

theorem nested_cons_addScope {t : ScopeTree} {s : ScopeId} {outerKind : ScopeKind}
    {rest : List (ScopeId × ScopeKind)} (h : t.Nested ((s, outerKind) :: rest))
    (kind : ScopeKind) :
    (t.addScope s kind).Nested ((t.count, kind) :: (s, outerKind) :: rest) := by
  refine ⟨?_, ?_, lt_count_of_kind (kind?_of_nested h), nested_addScope h s kind⟩
  · rw [kind?_addScope, if_pos rfl]
  · rw [parent?_addScope, if_pos rfl]

theorem chainFrom_of_nested {t : ScopeTree} {s : ScopeId} {kind : ScopeKind}
    {rest : List (ScopeId × ScopeKind)} (h : t.Nested ((s, kind) :: rest)) (steps : Nat)
    (enough : rest.length ≤ steps) :
    t.chainFrom steps s = ((s, kind) :: rest).map Prod.fst := by
  induction rest generalizing s kind steps with
  | nil =>
    cases steps with
    | zero => rfl
    | succ steps => simp only [chainFrom, h.2.2.2, List.map_cons, List.map_nil]
  | cons outer rest ih =>
    cases steps with
    | zero => cases enough
    | succ steps =>
      have tail := ih h.2.2.2 steps (Nat.le_of_succ_le_succ enough)
      have parent : t.parent? s = some outer.1 := h.2.1
      simp only [chainFrom, parent, tail, List.map_cons]

theorem chain_of_nested {t : ScopeTree} {s : ScopeId} {kind : ScopeKind}
    {rest : List (ScopeId × ScopeKind)} (h : t.Nested ((s, kind) :: rest)) :
    t.chain s = ((s, kind) :: rest).map Prod.fst := by
  apply chainFrom_of_nested h
  exact Nat.le_trans (length_le_of_nested h) (Nat.le_of_lt (lt_count_of_kind (kind?_of_nested h)))

theorem holdsVar_of_nested {t : ScopeTree} {list : List (ScopeId × ScopeKind)} (h : t.Nested list) :
    ∀ scope ∈ list, t.holdsVar scope.1 = scope.2.holdsVar := by
  induction list with
  | nil => exact h.elim
  | cons first rest ih =>
    intro scope hs
    rcases List.mem_cons.mp hs with same | later
    · subst same
      rw [holdsVar, kind?_of_nested h]
      rfl
    · cases rest with
      | nil => cases later
      | cons outer rest => exact ih (nested_tail h) scope later

theorem varScope_of_nested {t : ScopeTree} {s : ScopeId} {kind : ScopeKind}
    {rest : List (ScopeId × ScopeKind)} (h : t.Nested ((s, kind) :: rest)) :
    t.varScope s =
      ((((s, kind) :: rest).find? fun scope => scope.2.holdsVar).map Prod.fst).getD root := by
  have find (list : List (ScopeId × ScopeKind))
      (holds : ∀ scope ∈ list, t.holdsVar scope.1 = scope.2.holdsVar) :
      (list.map Prod.fst).find? t.holdsVar =
        (list.find? fun scope => scope.2.holdsVar).map Prod.fst := by
    rw [List.find?_map]
    congr 1
    apply List.find?_congr
    intro scope hs
    exact holds scope hs
  rw [varScope, chain_of_nested h, find _ (holdsVar_of_nested h)]

theorem exists_of_lookup? {t : ScopeTree} {first : ScopeId × ScopeKind}
    {rest : List (ScopeId × ScopeKind)} (h : t.Nested (first :: rest)) {name : String} {d : Nat}
    (found : t.lookup? first.1 name = some d) :
    ∃ scope ∈ first :: rest, t.lookupLocal? scope.1 name = some d := by
  obtain ⟨s, kind⟩ := first
  rw [lookup?_eq, chain_of_nested h] at found
  obtain ⟨o, ho, declares⟩ := List.exists_of_findSome?_eq_some found
  obtain ⟨scope, hs, rfl⟩ := List.mem_map.mp ho
  exact ⟨scope, hs, declares⟩

end CrossReference.ScopeTree
