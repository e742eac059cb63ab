import CrossReference.Proofs.Lowering.Binders
import CrossReference.Proofs.Lowering.Nesting
import CrossReference.Proofs.Lowering.ScopeStructure

set_option autoImplicit false

/-!
# Who opens the scopes around a site

The scopes around a site, but the module scope, are opened by sites that it lies in. Inside a
function, its own scope stops what moves outwards: both the nearest scope of a site and the nearest
that holds a declaration with `var` are opened in the function.
-/
namespace CrossReference.Site

variable {root : ParseNode} {F S U A B : Site} {s : ScopeId}

def Opens (F : Site) (s : ScopeId) : Prop := ∃ A ∈ F.sites, A.opened?.isSome ∧ A.nextScope = s

theorem opener_unique (hA : A ∈ root.allSites) (hB : B ∈ root.allSites) (opensA : A.opened?.isSome)
    (opensB : B.opened?.isSome) (same : A.nextScope = B.nextScope) : A = B := by
  have member := (Lowering.index_mem_openers_iff "" hA).mpr opensA
  rw [← Lowering.idxOf_openers "" hA opensA, ← Lowering.idxOf_openers "" hB opensB,
    Nat.add_right_cancel_iff, List.idxOf_inj member] at same
  exact eq_of_index hA hB same

theorem exists_opener (hU : U ∈ root.allSites) : ∀ scope ∈ U.around,
    scope.1 = ScopeTree.root ∨ ∃ A ∈ root.allSites, U ∈ A.sites ∧ A.opened?.isSome ∧
      A.nextScope = scope.1 := by
  induction hU using sites_induction with
  | here =>
    intro scope hs
    rw [List.mem_singleton.mp hs]
    exact .inl rfl
  | step Q hQ above C hC =>
    have below := mem_sites_of_mem_children hC
    have outer (scope : ScopeId × ScopeKind) (hs : scope ∈ Q.around) :
        scope.1 = ScopeTree.root ∨ ∃ A ∈ root.allSites, C ∈ A.sites ∧ A.opened?.isSome ∧
          A.nextScope = scope.1 := by
      refine (above scope hs).imp_right ?_
      rintro ⟨A, hA, inside, opens, same⟩
      exact ⟨A, hA, mem_trans inside below, opens, same⟩
    intro scope hs
    rw [around_of_mem_children hC, inside] at hs
    cases opened : Q.opened? with
    | none =>
      rw [opened] at hs
      exact outer scope hs
    | some kind =>
      rw [opened] at hs
      rcases List.mem_cons.mp hs with same | hs
      · exact .inr ⟨Q, hQ, below, by rw [opened]; rfl, by rw [same]⟩
      · exact outer scope hs

/-- A scope that is opened in `F` lies around sites of `F` alone. -/
theorem Opens.mem_sites (h : F.Opens s) (hF : F ∈ root.allSites) (hU : U ∈ root.allSites)
    {scope : ScopeId × ScopeKind} (around : scope ∈ U.around) (same : scope.1 = s) :
    U ∈ F.sites := by
  obtain ⟨A, hA, opens, eq⟩ := h
  rcases exists_opener hU scope around with module | ⟨B, hB, inside, opensB, eq'⟩
  · have later := ParseNode.scope_lt_nextScope (mem_trans hF hA)
    rw [eq, ← same, module] at later
    exact absurd later (Nat.not_lt_zero _)
  · obtain rfl := opener_unique (mem_trans hF hA) hB opens opensB
      (eq.trans (same.symm.trans eq'.symm))
    exact mem_trans hA inside

theorem opened?_of_function {p : Nat} {kind : String} (parent : F.parent = some (p, kind))
    (function : F.node.kind ∈ functionKinds) : F.opened? = some .function := by
  rw [opened?, parent, Option.bind_some, openedScope?, if_pos function]

/-- The scopes around a site in a function are those opened in the function up to its own, and then
    those around the function. -/
theorem around_in_function (function : F.opened? = some .function) (hS : S ∈ F.sites) (ne : S ≠ F) :
    ∃ inner, S.around = inner ++ (F.nextScope, .function) :: F.around ∧
      ∀ scope ∈ inner, F.Opens scope.1 := by
  induction hS using sites_induction with
  | here => exact absurd rfl ne
  | step Q hQ above C hC =>
    rw [around_of_mem_children hC, inside]
    by_cases own : Q = F
    · subst own
      rw [function]
      exact ⟨[], rfl, fun _ hs => absurd hs List.not_mem_nil⟩
    · obtain ⟨inner, around, opens⟩ := above own
      rw [around]
      cases opened : Q.opened? with
      | none => exact ⟨inner, rfl, opens⟩
      | some kind =>
        refine ⟨(Q.nextScope, kind) :: inner, rfl, fun scope hs => ?_⟩
        rcases List.mem_cons.mp hs with same | hs
        · rw [same]
          exact ⟨Q, hQ, by rw [opened]; rfl, rfl⟩
        · exact opens scope hs

theorem opens_scopes (function : F.opened? = some .function) (hS : S ∈ F.sites) (ne : S ≠ F) :
    F.Opens S.scope ∧ F.Opens S.varScope := by
  obtain ⟨inner, around, opens⟩ := around_in_function function hS ne
  have own : F.Opens F.nextScope := ⟨F, F.mem_sites_self, by rw [function]; rfl, rfl⟩
  constructor
  · rw [Slot.scope, around]
    cases inner with
    | nil => exact own
    | cons first rest => exact opens first List.mem_cons_self
  · rw [Slot.varScope, around, List.find?_append]
    cases found : inner.find? fun scope => scope.2.holdsVar with
    | none => exact own
    | some scope => exact opens scope (List.mem_of_find?_eq_some found)

end CrossReference.Site
