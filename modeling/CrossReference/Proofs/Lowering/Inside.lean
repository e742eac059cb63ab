import CrossReference.Proofs.Lowering.Progress
import CrossReference.Proofs.Scope.Lookup

set_option autoImplicit false

/-!
# Lowering stays inside its tree

Whatever the fields of the nodes are, every element that lowering writes down is one that it has
entered: in a shape, as a declaration or as the element of a node.
-/
namespace CrossReference

namespace Lowering

/-- A state that knows the elements below a bound and no others. -/
structure Inside (bound : Nat) (σ : Lowering) : Prop where
  size : σ.tree.size = bound
  elements : ∀ m i : Nat, σ.elements[m]? = some i → i < bound
  shapes : σ.tree.ShapesInside
  declared : σ.scopes.DeclaresBelow bound

section
variable {bound : Nat} {σ : Lowering} {n : ParseNode} {i : Nat}

theorem Inside.known (h : Inside bound σ) (known : σ.Known i) : i < bound := by
  obtain ⟨m, found⟩ := known
  exact h.elements m i found

theorem known_of_mem_arguments (h : i ∈ σ.arguments n) : σ.Known i := by
  rw [arguments] at h
  split at h
  · split at h
    · exact known_of_mem_childElements h
    · cases h
  · cases h

theorem known_of_mem_function
    (h : i ∈ (Shape.function (σ.fieldOf? n .name) (σ.parameters n) (σ.fieldOf? n .body)).indices) :
    σ.Known i := by
  rcases List.mem_append.mp h with front | body
  · rcases List.mem_append.mp front with name | parameter
    · exact known_of_fieldOf? (Option.mem_toList.mp name)
    · exact known_of_mem_parameters parameter
  · exact known_of_fieldOf? (Option.mem_toList.mp body)

theorem known_of_shape? {shape : Shape} (given : σ.shape? n = some shape)
    (hi : i ∈ shape.indices) : σ.Known i := by
  rw [shape?] at given
  split at given
  · obtain ⟨callee, found, rfl⟩ := Option.map_eq_some_iff.mp given
    obtain ⟨c, _, found⟩ := Option.bind_eq_some_iff.mp found
    rcases List.mem_cons.mp hi with same | argument
    · exact known_of_elementOf? (same ▸ found)
    · exact known_of_mem_arguments argument
  · obtain ⟨target, found, rfl⟩ := Option.map_eq_some_iff.mp given
    rcases List.mem_cons.mp hi with same | value
    · exact known_of_fieldOf? (same ▸ found)
    · exact known_of_fieldOf? (Option.mem_toList.mp value)
  · cases given
    obtain ⟨c, _, found⟩ := Option.bind_eq_some_iff.mp (Option.mem_toList.mp hi)
    exact known_of_elementOf? found
  · cases given
    exact known_of_mem_function hi
  · cases given
    exact known_of_mem_function hi
  · cases given
    exact known_of_mem_function hi
  · cases given

theorem giveShape_inside (h : Inside bound σ) (n : ParseNode) (i : Nat) :
    Inside bound (σ.giveShape n i) := by
  rw [giveShape]
  split
  · next shape given =>
    refine ⟨(ElementTree.size_modifyShape ..).trans h.size, h.elements, ?_, h.declared⟩
    apply ElementTree.shapesInside_modifyShape h.shapes
    intro e _ j hj
    rw [h.size]
    exact h.known (known_of_shape? given hj)
  · exact h

theorem mark_inside (h : Inside bound σ) (pattern : Nat) (role : Role) :
    Inside bound (σ.mark pattern role) :=
  ⟨(ElementTree.size_markPattern ..).trans h.size, h.elements,
    ElementTree.shapesInside_markPattern h.shapes _ _, h.declared⟩

theorem setRole_inside (h : Inside bound σ) (i : Nat) (role : Role) :
    Inside bound (σ.setRole i role) :=
  ⟨(ElementTree.size_modifyShape ..).trans h.size, h.elements,
    ElementTree.shapesInside_setRole h.shapes _ _, h.declared⟩

theorem define_inside (h : Inside bound σ) (scope : ScopeId) (pattern : Nat) {declaring : Nat}
    (inside : declaring < bound) : Inside bound (σ.define scope pattern declaring) :=
  ⟨(ElementTree.size_markPattern ..).trans h.size, h.elements,
    ElementTree.shapesInside_markPattern h.shapes _ _,
    ScopeTree.declaresBelow_foldl_define h.declared _ scope inside⟩

theorem Annotated.inside {σ' : Lowering} (annotated : Annotated i σ σ') (h : Inside bound σ)
    (here : i < bound) : Inside bound σ' := by
  induction annotated with
  | refl => exact h
  | mark _ pattern role ih => exact mark_inside ih pattern role
  | setRole _ j role ih => exact setRole_inside ih j role
  | define _ scope pattern known ih =>
    refine define_inside ih scope pattern ?_
    rcases known with own | known
    · exact own ▸ here
    · exact h.known known

theorem leave_inside (h : Inside bound σ) (n : ParseNode) (inside : i < bound) (kind : String) :
    Inside bound (σ.leave n i kind) := by
  have declared := (declareInner_annotated _ n i).inside (giveShape_inside h n i) inside
  apply (declareOuter_annotated ..).inside ?_ inside
  cases scopeOpened? n kind
  all_goals exact ⟨declared.size, declared.elements, declared.shapes, declared.declared⟩

theorem enter_inside (h : Inside bound σ) (source : String) (n : ParseNode) (p : Nat)
    (kind : String) : Inside (bound + 1) (σ.enter source n p kind) := by
  have size : (σ.tree.push p n.kind (some n.span) (leafShape source n)).size = bound + 1 := by
    rw [ElementTree.size_push, h.size]
  have elements (m i : Nat) (found : (σ.elements.insert n.number σ.tree.size)[m]? = some i) :
      i < bound + 1 := by
    rw [Std.TreeMap.getElem?_insert] at found
    split at found
    · rw [← Option.some.inj found, h.size]
      exact Nat.lt_succ_self bound
    · exact Nat.lt_succ_of_lt (h.elements m i found)
  have leaf : (leafShape source n).indices = [] := by
    rw [leafShape]
    split <;> rfl
  have shapes := ElementTree.shapesInside_push h.shapes p n.kind (some n.span)
    (by rw [leaf]; exact fun j hj => nomatch hj)
  have declared : σ.scopes.DeclaresBelow (bound + 1) := fun s name i found =>
    Nat.lt_succ_of_lt (h.declared s name i found)
  rw [enter]
  cases scopeOpened? n kind <;> exact ⟨size, elements, shapes, declared⟩

end

theorem start_inside (root : ParseNode) : Inside 1 (start root) := by
  refine ⟨rfl, ?_, ElementTree.shapesInside_new _ _, fun s name i found => nomatch found⟩
  intro m i found
  rw [start, Std.TreeMap.getElem?_insert] at found
  split at found
  · rw [← Option.some.inj found]
    exact Nat.zero_lt_one
  · rw [Std.TreeMap.getElem?_emptyc] at found
    cases found

theorem inside_kept (source : String) (root : ParseNode) :
    Kept source root.allSites fun entered _ σ => Inside entered.length σ where
  enter := by
    intro before left S σ p kind _ _ reached
    rw [List.length_append]
    exact enter_inside reached.holds source S.node p kind
  leave := by
    intro before left S σ p kind slot _ number _ reached
    apply leave_inside reached.holds
    rw [← number, List.length_append, S.sites_eq, List.length_cons]
    omega

theorem lower_inside (source : String) (root : ParseNode) :
    Inside (lower source root).tree.size (lower source root) := by
  have inside := (lower_kept (inside_kept source root) (start_inside root)).holds
  rw [inside.size]
  exact inside

end Lowering
end CrossReference
