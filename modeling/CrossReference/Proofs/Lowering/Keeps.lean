import CrossReference.Lowering.State
import CrossReference.Proofs.Element.Inside
import CrossReference.Proofs.Lowering.Kind

set_option autoImplicit false

/-!
# What leaving a node does not touch

Leaving a node gives it a shape, marks roles and declares names. It changes neither the outlines of
the elements nor their links, and it adds no scope and no element.
-/
namespace CrossReference

theorem Construct.ofKind_of_initialRole {kind : String} {role : Role}
    (h : initialRole? kind = some role) : Construct.ofKind kind = .other := by
  unfold initialRole? at h
  split at h
  all_goals first | rfl | cases h

namespace Lowering

structure Keeps (σ σ' : Lowering) : Prop where
  outlines : σ'.tree.outlines = σ.tree.outlines
  linked : σ.tree.Linked → σ'.tree.Linked
  scopes : σ'.scopes.scopes = σ.scopes.scopes
  places : σ'.scopes.places = σ.scopes.places
  openScopes : σ'.openScopes = σ.openScopes
  elements : σ'.elements = σ.elements

theorem Keeps.refl (σ : Lowering) : Keeps σ σ := ⟨rfl, id, rfl, rfl, rfl, rfl⟩

theorem Keeps.trans {σ σ' σ'' : Lowering} (h : Keeps σ σ') (h' : Keeps σ' σ'') : Keeps σ σ'' :=
  ⟨h'.outlines.trans h.outlines, h'.linked ∘ h.linked, h'.scopes.trans h.scopes,
    h'.places.trans h.places, h'.openScopes.trans h.openScopes, h'.elements.trans h.elements⟩

theorem mark_keeps (σ : Lowering) (pattern : ElementIndex) (role : Role) :
    Keeps σ (σ.mark pattern role) :=
  ⟨ElementTree.outlines_markPattern .., fun linked => ElementTree.linked_markPattern linked ..,
    rfl, rfl, rfl, rfl⟩

theorem setRole_keeps (σ : Lowering) (i : ElementIndex) (role : Role) :
    Keeps σ (σ.setRole i role) :=
  ⟨ElementTree.outlines_setRole .., fun linked => ElementTree.linked_modifyShape linked ..,
    rfl, rfl, rfl, rfl⟩

theorem foldl_define_keeps (names : List String) (scope : ScopeId) (declaring : ElementIndex)
    (t : ScopeTree) :
    let t' := names.foldl (fun t name => t.define scope name declaring) t
    t'.scopes = t.scopes ∧ t'.places = t.places := by
  induction names generalizing t with
  | nil => exact ⟨rfl, rfl⟩
  | cons name rest ih => exact ih (t.define scope name declaring)

theorem define_keeps (σ : Lowering) (scope : ScopeId) (pattern declaring : ElementIndex) :
    Keeps σ (σ.define scope pattern declaring) :=
  have scopes := foldl_define_keeps (σ.tree.markPattern pattern .declaration).1 scope declaring
    σ.scopes
  ⟨ElementTree.outlines_markPattern .., fun linked => ElementTree.linked_markPattern linked ..,
    scopes.1, scopes.2, rfl, rfl⟩

theorem foldl_keeps {α : Type} (step : Lowering → α → Lowering)
    (keeps : ∀ σ a, Keeps σ (step σ a)) (list : List α) (σ : Lowering) :
    Keeps σ (list.foldl step σ) := by
  induction list generalizing σ with
  | nil => exact Keeps.refl σ
  | cons a rest ih => exact (keeps σ a).trans (ih _)

def Known (σ : Lowering) (i : ElementIndex) : Prop := ∃ m : Nat, σ.elements[m]? = some i

section
variable {σ : Lowering} {n : ParseNode} {i : ElementIndex}

theorem known_of_elementOf? (found : σ.elementOf? n = some i) : σ.Known i := ⟨n.number, found⟩

theorem known_of_fieldOf? {f : Field} (found : σ.fieldOf? n f = some i) : σ.Known i := by
  obtain ⟨c, _, found⟩ := Option.bind_eq_some_iff.mp found
  exact known_of_elementOf? found

theorem known_of_mem_childElements (h : i ∈ σ.childElements n) : σ.Known i := by
  obtain ⟨c, _, found⟩ := List.mem_filterMap.mp h
  exact known_of_elementOf? found

theorem known_of_mem_parameters (h : i ∈ σ.parameters n) : σ.Known i := by
  rw [parameters] at h
  split at h
  · exact known_of_mem_childElements h
  · exact known_of_fieldOf? (Option.mem_toList.mp h)

end

/-- The states that come of a state by marking patterns, giving roles and declaring names, where the
    declaring element is `i` or one that a node has become. -/
inductive Annotated (i : ElementIndex) (σ : Lowering) : Lowering → Prop
  | refl : Annotated i σ σ
  | mark {σ' : Lowering} (h : Annotated i σ σ') (pattern : ElementIndex) (role : Role) :
      Annotated i σ (σ'.mark pattern role)
  | setRole {σ' : Lowering} (h : Annotated i σ σ') (j : ElementIndex) (role : Role) :
      Annotated i σ (σ'.setRole j role)
  | define {σ' : Lowering} (h : Annotated i σ σ') (scope : ScopeId) (pattern : ElementIndex)
      {declaring : ElementIndex} (known : declaring = i ∨ σ.Known declaring) :
      Annotated i σ (σ'.define scope pattern declaring)

namespace Annotated

variable {i : ElementIndex} {σ σ' : Lowering}

theorem keeps (h : Annotated i σ σ') : Keeps σ σ' := by
  induction h with
  | refl => exact Keeps.refl σ
  | mark _ pattern role ih => exact ih.trans (mark_keeps _ pattern role)
  | setRole _ j role ih => exact ih.trans (setRole_keeps _ j role)
  | define _ scope pattern _ ih => exact ih.trans (define_keeps _ scope pattern _)

theorem define? (h : Annotated i σ σ') (scope : ScopeId) (pattern : Option ElementIndex) :
    Annotated i σ (σ'.define? scope pattern i) := by
  cases pattern with
  | none => exact h
  | some pattern => exact h.define scope pattern (.inl rfl)

theorem foldl_define (h : Annotated i σ σ') (scope : ScopeId)
    (declaring : ElementIndex → ElementIndex) {patterns : List ElementIndex}
    (known : ∀ p ∈ patterns, declaring p = i ∨ σ.Known (declaring p)) :
    Annotated i σ (patterns.foldl (fun σ p => σ.define scope p (declaring p)) σ') := by
  induction patterns generalizing σ' with
  | nil => exact h
  | cons p rest ih =>
    exact ih (h.define scope p (known p List.mem_cons_self))
      fun q hq => known q (List.mem_cons_of_mem _ hq)

theorem defineEach (h : Annotated i σ σ') (scope : ScopeId) {patterns : List ElementIndex}
    (known : ∀ p ∈ patterns, σ.Known p) : Annotated i σ (σ'.defineEach scope patterns) :=
  h.foldl_define scope id fun p hp => .inr (known p hp)

end Annotated

theorem declareInner_annotated (σ : Lowering) (n : ParseNode) (i : ElementIndex) :
    Annotated i σ (σ.declareInner n i) := by
  have parameters : Annotated i σ (σ.defineEach σ.currentScope (σ.parameters n)) :=
    Annotated.refl.defineEach _ fun _ hp => known_of_mem_parameters hp
  unfold declareInner
  split
  · exact parameters
  · exact parameters
  · exact parameters.define? ..
  · exact Annotated.refl.define? ..
  · split
    · next parameter found => exact Annotated.refl.define _ _ (.inr (known_of_fieldOf? found))
    · exact .refl
  · split
    · exact .refl
    · next left found =>
      have known : left = i ∨ σ.Known left := .inr (known_of_fieldOf? found)
      split
      · exact Annotated.refl.define _ _ known
      · exact Annotated.refl.define _ _ known
      · exact Annotated.refl.mark ..
  · exact .refl

theorem declareOuter_annotated (σ : Lowering) (n : ParseNode) (i : ElementIndex)
    (parentKind : String) : Annotated i σ (σ.declareOuter n i parentKind) := by
  unfold declareOuter
  split
  · exact Annotated.refl.define? ..
  · exact Annotated.refl.define? ..
  · exact Annotated.refl.define? ..
  · split
    · exact (Annotated.refl.setRole ..).define _ _ (.inl rfl)
    · exact Annotated.refl.define _ _ (.inl rfl)
    · exact Annotated.refl.define? ..
  · exact Annotated.refl.foldl_define _ (fun _ => i) fun _ _ => .inl rfl
  · apply Annotated.refl.defineEach
    intro p hp
    obtain ⟨c, _, found⟩ := List.mem_filterMap.mp hp
    exact known_of_elementOf? found
  · split
    · exact Annotated.refl.setRole ..
    · exact .refl
  · split
    · exact Annotated.refl.mark ..
    · exact .refl
  · exact .refl

theorem declareInner_keeps (σ : Lowering) (n : ParseNode) (i : ElementIndex) :
    Keeps σ (σ.declareInner n i) := (declareInner_annotated σ n i).keeps

theorem declareOuter_keeps (σ : Lowering) (n : ParseNode) (i : ElementIndex) (parentKind : String) :
    Keeps σ (σ.declareOuter n i parentKind) := (declareOuter_annotated σ n i parentKind).keeps

theorem of_shape?_eq_some {σ : Lowering} {n : ParseNode} {shape : Shape}
    (h : σ.shape? n = some shape) :
    Construct.ofKind n.kind ≠ .other ∧ ∀ name role, shape ≠ .identifier name role := by
  unfold shape? at h
  split at h
  · next construct =>
    obtain ⟨_, _, rfl⟩ := Option.map_eq_some_iff.mp h
    exact ⟨by rw [construct]; decide, fun _ _ => nofun⟩
  · next construct =>
    obtain ⟨_, _, rfl⟩ := Option.map_eq_some_iff.mp h
    exact ⟨by rw [construct]; decide, fun _ _ => nofun⟩
  · next construct =>
    cases h
    exact ⟨by rw [construct]; decide, fun _ _ => nofun⟩
  · next construct =>
    cases h
    exact ⟨by rw [construct]; decide, fun _ _ => nofun⟩
  · next construct =>
    cases h
    exact ⟨by rw [construct]; decide, fun _ _ => nofun⟩
  · next construct =>
    cases h
    exact ⟨by rw [construct]; decide, fun _ _ => nofun⟩
  · cases h

theorem giveShape_keeps (σ : Lowering) (n : ParseNode) (i : ElementIndex)
    (nameless : Construct.ofKind n.kind ≠ .other →
      ∀ e, σ.tree.element? i = some e → e.name? = none) :
    Keeps σ (σ.giveShape n i) := by
  unfold giveShape
  split
  · next shape given =>
    obtain ⟨construct, noName⟩ := of_shape?_eq_some given
    refine ⟨?_, fun linked => ElementTree.linked_modifyShape linked i fun _ => shape, rfl, rfl, rfl,
      rfl⟩
    apply ElementTree.outlines_modifyShape
    intro e found
    rw [nameless construct e found]
    cases shape with
    | identifier name role => exact absurd rfl (noName name role)
    | _ => rfl
  · exact Keeps.refl σ

end Lowering
end CrossReference
