import CrossReference.Scope

set_option autoImplicit false

/-!
# Looking names up

What is found after several names were declared at once, and where a look-up along the scopes around
may lead.
-/
namespace CrossReference.ScopeTree

theorem lookupLocal?_foldl_define (names : List String) (t : ScopeTree)
    (scope s : ScopeId) (name : String) (declaring : ElementIndex) :
    (names.foldl (fun t name => t.define scope name declaring) t).lookupLocal? s name =
      (t.lookupLocal? s name).or (if scope = s ∧ name ∈ names then some declaring else none) := by
  induction names generalizing t with
  | nil => simp
  | cons first rest ih =>
    rw [List.foldl_cons, ih, lookupLocal?_define]
    by_cases here : scope = s ∧ first = name
    · obtain ⟨rfl, rfl⟩ := here
      cases t.lookupLocal? scope first <;> simp
    · rw [if_neg fun all => here ⟨all.1, all.2.1⟩]
      congr 1
      have other : (scope = s ∧ name ∈ first :: rest) ↔ (scope = s ∧ name ∈ rest) := by
        rw [List.mem_cons, and_congr_right_iff]
        intro same
        exact or_iff_right fun eq => here ⟨same, eq.symm⟩
      simp only [other]

theorem lookup?_eq (t : ScopeTree) (s : ScopeId) (name : String) :
    t.lookup? s name = (t.chain s).findSome? fun o => t.lookupLocal? o name := by
  rw [lookup?, chain]
  generalize t.count = steps
  induction steps generalizing s with
  | zero => rw [lookupFrom, chainFrom, List.findSome?_singleton]
  | succ steps ih =>
    rw [lookupFrom, chainFrom]
    cases t.parent? s with
    | none =>
      simp only [List.findSome?_singleton]
      cases t.lookupLocal? s name <;> rfl
    | some outer =>
      simp only [List.findSome?_cons, ih outer]
      cases t.lookupLocal? s name <;> rfl

def DeclaresBelow (t : ScopeTree) (bound : Nat) : Prop :=
  ∀ (s : ScopeId) (name : String) (i : Nat), t.lookupLocal? s name = some i → i < bound

variable {t : ScopeTree} {bound : Nat}

theorem declaresBelow_foldl_define (h : t.DeclaresBelow bound) (names : List String)
    (scope : ScopeId) {declaring : Nat} (inside : declaring < bound) :
    (names.foldl (fun t name => t.define scope name declaring) t).DeclaresBelow bound := by
  intro s name i found
  rw [lookupLocal?_foldl_define] at found
  rcases Option.or_eq_some_iff.mp found with old | ⟨_, new⟩
  · exact h s name i old
  · split at new
    · exact Option.some.inj new ▸ inside
    · cases new

theorem lookup?_lt (h : t.DeclaresBelow bound) {s : ScopeId} {name : String} {i : ElementIndex}
    (found : t.lookup? s name = some i) : i < bound := by
  rw [lookup?_eq] at found
  obtain ⟨o, _, here⟩ := List.exists_of_findSome?_eq_some found
  exact h o name i here

theorem resolve?_lt (h : t.DeclaresBelow bound) {i d : Nat} {name : String}
    (found : t.resolve? i name = some d) : d < bound := by
  obtain ⟨s, _, found⟩ := Option.bind_eq_some_iff.mp found
  exact lookup?_lt h found

end CrossReference.ScopeTree
