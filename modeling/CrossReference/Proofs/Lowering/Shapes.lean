import CrossReference.Proofs.Lowering.Fields

set_option autoImplicit false

/-!
# The shapes that functions get

An element gets its shape when it is left, and from then on only its role changes. So a function
keeps the name, the parameters and the body that its node had in the parse tree:
`shape_lower_function`.
-/
namespace CrossReference

def Shape.bare (shape : Shape) : Shape := shape.setRole .read

theorem Shape.bare_setRole (role : Role) (shape : Shape) :
    (shape.setRole role).bare = shape.bare := by
  cases shape <;> rfl

theorem Shape.bare_eq_function_iff {shape : Shape} {name body : Option Nat}
    {parameters : List Nat} : shape.bare = .function name parameters body ↔
      shape = .function name parameters body := by
  cases shape <;> simp [bare, setRole]

namespace ElementTree

def bareShape? (t : ElementTree) (i : Nat) : Option Shape :=
  (t.element? i).map fun e => e.shape.bare

theorem bareShape?_setRole (t : ElementTree) (i j : Nat) (role : Role) :
    (t.setRole i role).bareShape? j = t.bareShape? j := by
  rw [bareShape?, bareShape?, setRole, element?_modifyShape]
  split
  · rw [Option.map_map]
    congr 1
    funext e
    exact Shape.bare_setRole role e.shape
  · rfl

theorem bareShape?_markPattern (t : ElementTree) (pattern j : Nat) (role : Role) :
    (t.markPattern pattern role).2.bareShape? j = t.bareShape? j :=
  markPattern_preserves (P := fun t' => t'.bareShape? j = t.bareShape? j)
    (fun t' i same => (bareShape?_setRole t' i j role).trans same) rfl pattern

theorem bareShape?_setShape {t : ElementTree} {i : Nat} (inside : i < t.size) (shape : Shape) :
    (t.setShape i shape).bareShape? i = some shape.bare := by
  obtain ⟨e, found⟩ := exists_element inside
  rw [bareShape?, setShape, element?_modifyShape, if_pos rfl, found]
  rfl

theorem bareShape?_setShape_of_ne (t : ElementTree) {i j : Nat} (ne : i ≠ j) (shape : Shape) :
    (t.setShape i shape).bareShape? j = t.bareShape? j := by
  rw [bareShape?, bareShape?, setShape, element?_modifyShape, if_neg ne]

theorem bareShape?_push_of_lt (t : ElementTree) (parent : Nat) (kind : String)
    (span : Option Span) (shape : Shape) {i : Nat} (inside : i < t.size) :
    (t.push parent kind span shape).bareShape? i = t.bareShape? i := by
  rw [bareShape?, bareShape?, element?_push_of_lt t parent kind span shape inside]
  split
  · rw [Option.map_map]
    rfl
  · rfl

theorem bareShape?_push_size (t : ElementTree) (parent : Nat) (kind : String)
    (span : Option Span) (shape : Shape) :
    (t.push parent kind span shape).bareShape? t.size = some shape.bare := by
  rw [bareShape?, element?_push_size]
  rfl

end ElementTree

namespace Lowering

section
variable {σ σ' : Lowering} {n : ParseNode} {i : Nat}

theorem Annotated.bareShape? (h : Annotated i σ σ') (j : Nat) :
    σ'.tree.bareShape? j = σ.tree.bareShape? j := by
  induction h with
  | refl => rfl
  | mark _ pattern role ih => exact (ElementTree.bareShape?_markPattern ..).trans ih
  | setRole _ k role ih => exact (ElementTree.bareShape?_setRole ..).trans ih
  | define _ scope pattern _ ih => exact (ElementTree.bareShape?_markPattern ..).trans ih

theorem bareShape?_giveShape_of_ne (σ : Lowering) (n : ParseNode) {i j : Nat} (ne : i ≠ j) :
    (σ.giveShape n i).tree.bareShape? j = σ.tree.bareShape? j := by
  rw [giveShape]
  split
  · exact ElementTree.bareShape?_setShape_of_ne _ ne _
  · rfl

theorem bareShape?_giveShape (n : ParseNode) (inside : i < σ.tree.size) :
    (σ.giveShape n i).tree.bareShape? i =
      ((σ.shape? n).map Shape.bare).or (σ.tree.bareShape? i) := by
  rw [giveShape]
  split
  · next shape given =>
    rw [ElementTree.bareShape?_setShape inside, given]
    rfl
  · next none =>
    rw [none]
    rfl

theorem bareShape?_leave (σ : Lowering) (n : ParseNode) (i j : Nat) (kind : String) :
    (σ.leave n i kind).tree.bareShape? j = (σ.giveShape n i).tree.bareShape? j := by
  have inner := (declareInner_annotated (σ.giveShape n i) n i).bareShape? j
  rw [leave, (declareOuter_annotated ..).bareShape? j, ← inner]
  cases scopeOpened? n kind <;> rfl

theorem bareShape?_enter (source : String) (p : Nat) (kind : String) (σ : Lowering)
    (n : ParseNode) : (∀ j < σ.tree.size,
        (σ.enter source n p kind).tree.bareShape? j = σ.tree.bareShape? j) ∧
      (σ.enter source n p kind).tree.bareShape? σ.tree.size = some (leafShape source n).bare := by
  have tree : (σ.enter source n p kind).tree =
      σ.tree.push p n.kind (some n.span) (leafShape source n) := openScope_tree ..
  rw [tree]
  exact ⟨fun j inside => ElementTree.bareShape?_push_of_lt _ _ _ _ _ inside,
    ElementTree.bareShape?_push_size ..⟩

theorem shape?_eq_function {name body : Option Nat} {parameters : List Nat}
    (given : σ.shape? n = some (.function name parameters body)) :
    n.kind ∈ functionKinds ∧
      name = σ.fieldOf? n .name ∧ parameters = σ.parameters n ∧ body = σ.fieldOf? n .body := by
  rw [← Construct.isFunction_ofKind]
  unfold shape? at given
  split at given
  · obtain ⟨_, _, other⟩ := Option.map_eq_some_iff.mp given
    cases other
  · obtain ⟨_, _, other⟩ := Option.map_eq_some_iff.mp given
    cases other
  all_goals cases given
  all_goals next construct => exact ⟨by rw [construct]; rfl, rfl, rfl, rfl⟩

end

end Lowering

def Site.functionShape (S : Site) : Shape :=
  .function ((S.field? .name).map (·.index)) (S.parameters.map (·.index))
    ((S.field? .body).map (·.index))

namespace Lowering

/-- A site that has the shape of a function is one, and has its own parts. It is not the root, which
    is never left. -/
def FunctionsShaped (entered _left : List Site) (σ : Lowering) : Prop :=
  ∀ X ∈ entered, ∀ name parameters body,
    σ.tree.bareShape? X.index = some (.function name parameters body) →
      X.node.kind ∈ functionKinds ∧ X.parent.isSome ∧
        .function name parameters body = X.functionShape

theorem functionsShaped_kept (source : String) {root : ParseNode} (wf : root.WellFormed) :
    Kept source root.allSites FunctionsShaped where
  enter := by
    intro before left S σ p kind inOrder parent reached
    have early : before <+: root.allSites := (List.prefix_append _ _).trans inOrder
    obtain ⟨old, new⟩ := bareShape?_enter source p kind σ S.node
    intro X hX name parameters body shape
    rcases List.mem_append.mp hX with earlier | last
    · have less := reached.records.lt_size early earlier
      exact reached.holds X earlier name parameters body (old _ less ▸ shape)
    · -- an element that has just been entered is no function yet
      rw [List.mem_singleton.mp last, ← reached.stands.size, new, leafShape] at shape
      split at shape <;> cases shape
  leave := by
    intro before left S σ p kind slot inOrder number parent reached
    have inside : S.sites ⊆ before ++ S.sites := List.subset_append_right _ _
    have records := reached.records
    have size := records.lt_size inOrder (inside S.mem_sites_self)
    intro X hX name parameters body shape
    rw [bareShape?_leave] at shape
    by_cases same : S.index = X.index
    · obtain rfl := Site.eq_of_index (inOrder.subset hX)
        (inOrder.subset (inside S.mem_sites_self)) same.symm
      rw [bareShape?_giveShape X.node size] at shape
      rcases Option.or_eq_some_iff.mp shape with given | ⟨_, before⟩
      · obtain ⟨whole, given, bare⟩ := Option.map_eq_some_iff.mp given
        rw [Shape.bare_eq_function_iff.mp bare] at given
        obtain ⟨function, rfl, rfl, rfl⟩ := shape?_eq_function given
        refine ⟨function, Option.isSome_of_eq_some parent, ?_⟩
        rw [records.fieldOf? wf inOrder inside, records.parameters wf inOrder inside,
          records.fieldOf? wf inOrder inside]
        rfl
      · exact reached.holds X hX name parameters body before
    · rw [bareShape?_giveShape_of_ne σ S.node same] at shape
      exact reached.holds X hX name parameters body shape

theorem shape_lower_function {source : String} {root : ParseNode} (wf : root.WellFormed) {f : Nat}
    {e : Element} (found : (lower source root).tree.element? f = some e) {name body : Option Nat}
    {parameters : List Nat} (shape : e.shape = .function name parameters body) :
    ∃ F ∈ root.allSites, F.index = f ∧ F.node.kind ∈ functionKinds ∧ F.parent.isSome ∧
      e.shape = F.functionShape := by
  obtain ⟨F, hF, rfl⟩ := exists_site_lower (ElementTree.lt_size_of_element found)
  have start : FunctionsShaped [root.rootSite] [] (Lowering.start root) := by
    intro X hX name parameters body shape
    rw [List.mem_singleton.mp hX] at shape
    cases shape
  have shaped := (lower_kept (functionsShaped_kept source wf) start).holds
  have bare : (lower source root).tree.bareShape? F.index =
      some (.function name parameters body) := by
    rw [ElementTree.bareShape?, found, Option.map_some, shape]
    rfl
  obtain ⟨function, parent, parts⟩ := shaped F hF name parameters body bare
  exact ⟨F, hF, rfl, function, parent, shape.trans parts⟩

end Lowering
end CrossReference
