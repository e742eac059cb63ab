import CrossReference.Graph.Build
import CrossReference.Proofs.Element.Reach
import CrossReference.Proofs.Lowering.Declaring
import CrossReference.Proofs.Lowering.Openers
import CrossReference.Proofs.Lowering.Shapes

set_option autoImplicit false

/-!
# The function around an element, by elements and by scopes

A function is known by its shape, which it gets when it is left, and its scope is opened when it is
entered. Once all is lowered both are there for the same elements, so that the way out through the
elements and the way out through the scopes end at the same function: `varScope_lower`.
-/
namespace CrossReference

def Shape.isFunction : Shape → Bool
  | .function .. => true
  | _ => false

theorem Element.isFunction_eq (e : Element) : e.isFunction = e.shape.isFunction := by
  unfold Element.isFunction Shape.isFunction
  split <;> simp_all

theorem Shape.isFunction_bare (shape : Shape) : shape.bare.isFunction = shape.isFunction := by
  cases shape <;> rfl

namespace ElementTree

theorem isFunction_eq (t : ElementTree) (i : Nat) :
    t.isFunction i = (t.bareShape? i).any Shape.isFunction := by
  rw [isFunction, bareShape?]
  cases t.element? i with
  | none => rfl
  | some e => exact e.isFunction_eq.trans e.shape.isFunction_bare.symm

theorem isFunction_congr {t t' : ElementTree} {i : Nat} (same : t'.bareShape? i = t.bareShape? i) :
    t'.isFunction i = t.isFunction i := by
  rw [isFunction_eq, isFunction_eq, same]

/-- The element has opened the scope: scopes are numbered in pre-order of the elements that open
    them, each lies where its element stands, and just below the element one stands in it. -/
structure OpenedBy (t : ElementTree) (scopes : ScopeTree) (f : Nat) (s : ScopeId) : Prop where
  number : ∃ k, s = k + 1 ∧ t.openers[k]? = some f
  kind_eq : scopes.kind? s = t.opened? f
  outer : ∃ outer, scopes.scopeOf? f = some outer ∧ scopes.parent? s = some outer
  inner : ∀ c, t.parent? c = some f → scopes.scopeOf? c = some s

/-- From element `i` in scope `s`, declarations with `var` move out to the scope that function `f`
    has opened, or to the module scope where no function is around `i` and `f` is the root. -/
structure HoistsTo (t : ElementTree) (scopes : ScopeTree) (i f : Nat) (s : ScopeId) : Prop where
  scope : scopes.scopeOf? i = some s
  function : t.enclosingFunction? i = some f
  module_iff : scopes.varScope s = ScopeTree.root ↔ f = root
  opened : f ≠ root → t.isFunction f ∧ t.OpenedBy scopes f (scopes.varScope s)
  shared_iff : ∀ j s', scopes.scopeOf? j = some s' →
    (scopes.varScope s' = scopes.varScope s ↔ t.enclosingFunction? j = some f)
  /-- A `return` at `i` is joined to the same function. -/
  returned : ∀ (b : GraphInput) (g : Graph) (value : Nat), b.tree = t →
    b.addReturn? g i (some value) = b.connect? g f value .returnArgument "return argument"

end ElementTree

namespace Lowering

section
variable {σ : Lowering} {n : ParseNode} {i : Nat}

theorem leafShape_isFunction (source : String) (n : ParseNode) :
    (leafShape source n).isFunction = false := by
  rw [leafShape]
  split <;> rfl

theorem shape?_isFunction {shape : Shape} (given : σ.shape? n = some shape) :
    shape.isFunction = (Construct.ofKind n.kind).isFunction := by
  unfold shape? at given
  split at given
  · next construct =>
    obtain ⟨_, _, rfl⟩ := Option.map_eq_some_iff.mp given
    rw [construct]
    rfl
  · next construct =>
    obtain ⟨_, _, rfl⟩ := Option.map_eq_some_iff.mp given
    rw [construct]
    rfl
  all_goals cases given
  all_goals next construct => rw [construct]; rfl

theorem exists_shape_of_isFunction (σ : Lowering)
    (function : (Construct.ofKind n.kind).isFunction) : ∃ shape, σ.shape? n = some shape := by
  unfold shape?
  cases construct : Construct.ofKind n.kind
  all_goals rw [construct] at function
  case functionDeclaration | functionExpression | namelessFunction => exact ⟨_, rfl⟩
  all_goals cases function

theorem isFunction_leave (kind : String) (inside : i < σ.tree.size)
    (before : σ.tree.isFunction i → (Construct.ofKind n.kind).isFunction) :
    (σ.leave n i kind).tree.isFunction i = (Construct.ofKind n.kind).isFunction := by
  rw [ElementTree.isFunction_eq, bareShape?_leave, bareShape?_giveShape n inside]
  cases given : σ.shape? n with
  | some shape => exact shape.isFunction_bare.trans (shape?_isFunction given)
  | none =>
    rw [Option.map_none, Option.none_or, ← ElementTree.isFunction_eq, Bool.eq_iff_iff]
    refine ⟨before, fun function => ?_⟩
    obtain ⟨shape, other⟩ := exists_shape_of_isFunction σ function
    rw [given] at other
    cases other

end

theorem opened?_eq_function_iff {S : Site} {p : Nat} {kind : String}
    (parent : S.parent = some (p, kind)) :
    S.opened? = some .function ↔ (Construct.ofKind S.node.kind).isFunction := by
  rw [Construct.isFunction_ofKind]
  refine ⟨fun opened => ?_, Site.opened?_of_function parent⟩
  rw [Site.opened?, parent, Option.bind_some, openedScope?] at opened
  split at opened
  · assumption
  · split_ifs at opened <;> cases opened

theorem opened?_ne_module (S : Site) : S.opened? ≠ some .module := by
  intro opened
  obtain ⟨parent, _, opened⟩ := Option.bind_eq_some_iff.mp opened
  rw [openedScope?] at opened
  split_ifs at opened <;> cases opened

/-- The functions among the elements are those of sites that open a function scope, as far as these
    have been left. -/
structure FunctionsKnown (entered left : List Site) (σ : Lowering) : Prop where
  left_subset : left ⊆ entered
  sound : ∀ X ∈ entered, σ.tree.isFunction X.index → X.opened? = some .function
  complete : ∀ X ∈ left, X.opened? = some .function → σ.tree.isFunction X.index

theorem functionsKnown_start (root : ParseNode) :
    FunctionsKnown [root.rootSite] [] (start root) := by
  refine ⟨List.nil_subset _, ?_, fun X hX => nomatch hX⟩
  intro X hX function
  rw [List.mem_singleton.mp hX] at function
  cases function

section
variable {source : String} {root : ParseNode} {before left : List Site} {S : Site} {σ : Lowering}
  {p : Nat} {kind : String}

theorem enter_functionsKnown (inOrder : before <+: root.allSites) (stands : StandsAt S.toSlot σ)
    (records : Records source before σ) (known : FunctionsKnown before left σ) :
    FunctionsKnown (before ++ [S]) left (σ.enter source S.node p kind) := by
  obtain ⟨kept, added⟩ := bareShape?_enter source p kind σ S.node
  have old {X : Site} (hX : X ∈ before) :
      (σ.enter source S.node p kind).tree.isFunction X.index = σ.tree.isFunction X.index := by
    apply ElementTree.isFunction_congr
    exact kept _ (records.lt_size inOrder hX)
  have new : (σ.enter source S.node p kind).tree.isFunction S.index = false := by
    rw [ElementTree.isFunction_eq, ← stands.size, added]
    exact (leafShape source S.node).isFunction_bare.trans (leafShape_isFunction source S.node)
  refine ⟨fun X hX => List.mem_append_left _ (known.left_subset hX), ?_, ?_⟩
  · intro X hX function
    rcases List.mem_append.mp hX with earlier | last
    · exact known.sound X earlier (old earlier ▸ function)
    · rw [List.mem_singleton.mp last, new] at function
      cases function
  · intro X hX opened
    rw [old (known.left_subset hX)]
    exact known.complete X hX opened

theorem leave_functionsKnown {entered : List Site} (inOrder : entered <+: root.allSites)
    (here : S ∈ entered) (parent : S.parent = some (p, kind)) (records : Records source entered σ)
    (known : FunctionsKnown entered left σ) :
    FunctionsKnown entered (left ++ [S]) (σ.leave S.node S.index kind) := by
  have size := records.lt_size inOrder here
  have own : (σ.leave S.node S.index kind).tree.isFunction S.index ↔
      S.opened? = some .function := by
    rw [opened?_eq_function_iff parent, isFunction_leave kind size]
    intro function
    exact (opened?_eq_function_iff parent).mp (known.sound S here function)
  have other {X : Site} (hX : X ∈ entered) : X = S ∨
      (σ.leave S.node S.index kind).tree.isFunction X.index = σ.tree.isFunction X.index := by
    by_cases same : S.index = X.index
    · exact .inl (Site.eq_of_index (inOrder.subset hX) (inOrder.subset here) same.symm)
    · apply Or.inr
      apply ElementTree.isFunction_congr
      rw [bareShape?_leave, bareShape?_giveShape_of_ne _ _ same]
  refine ⟨?_, ?_, ?_⟩
  · intro X hX
    rcases List.mem_append.mp hX with earlier | last
    · exact known.left_subset earlier
    · exact List.mem_singleton.mp last ▸ here
  · intro X hX function
    rcases other hX with rfl | unchanged
    · exact own.mp function
    · exact known.sound X hX (unchanged ▸ function)
  · intro X hX opened
    rcases List.mem_append.mp hX with earlier | last
    · rcases other (known.left_subset earlier) with rfl | unchanged
      · exact own.mpr opened
      · exact unchanged ▸ known.complete X earlier opened
    · obtain rfl := List.mem_singleton.mp last
      exact own.mpr opened

end

theorem functionsKnown_kept (source : String) (root : ParseNode) :
    Kept source root.allSites FunctionsKnown where
  enter _ _ inside _ reached :=
    enter_functionsKnown ((List.prefix_append _ _).trans inside) reached.stands reached.records
      reached.holds
  leave _ _ _ inside _ parent reached :=
    leave_functionsKnown inside (List.mem_append_right _ (Site.mem_sites_self _)) parent
      reached.records reached.holds

section
variable {source : String} {root : ParseNode} {S F : Site}

theorem isFunction_lower (source : String) (hS : S ∈ root.allSites) :
    (lower source root).tree.isFunction S.index ↔ S.opened? = some .function := by
  have known := (lower_kept (functionsKnown_kept source root) (functionsKnown_start root)).holds
  refine ⟨known.sound S hS, fun opened => ?_⟩
  apply known.complete S ?_ opened
  -- the root opens nothing, and all other sites have been left
  exact ParseNode.mem_leaveOrder_iff.mpr ⟨hS, fun isRoot => by rw [isRoot] at opened; cases opened⟩

theorem varScope_of_mem_children {C Q : Site} (h : C ∈ Q.children) :
    C.varScope = if Q.opened? = some .function then Q.nextScope else Q.varScope := by
  rw [Slot.varScope, Site.around_of_mem_children h, Site.inside]
  cases opened : Q.opened? with
  | none => rfl
  | some kind =>
    cases kind with
    | module => exact absurd opened (opened?_ne_module Q)
    | function | block | classBody => rfl

theorem functionAround_of_mem_children (source : String) {C Q : Site} (hQ : Q ∈ root.allSites)
    (h : C ∈ Q.children) : (lower source root).tree.functionAround C.index =
      if Q.opened? = some .function then Q.index
      else (lower source root).tree.functionAround Q.index := by
  have hC : C ∈ root.allSites := Site.mem_trans hQ (Site.mem_sites_of_mem_children h)
  have parent : (lower source root).tree.parent? C.index = some Q.index := by
    rw [parent?_lower source hC, Site.parent_of_mem_children h]
    rfl
  rw [ElementTree.functionAround_of_parent (lower_records source root).linked parent]
  simp only [isFunction_lower source hQ]

/-- Out through the elements and out through the scopes: both find the module or the same site. -/
theorem function_around_lower (source : String) (hS : S ∈ root.allSites) :
    ((lower source root).tree.functionAround S.index = ElementTree.root ∧
        S.varScope = ScopeTree.root) ∨
      ∃ F ∈ root.allSites, F.opened? = some .function ∧
        (lower source root).tree.functionAround S.index = F.index ∧ S.varScope = F.nextScope := by
  induction hS using Site.sites_induction with
  | here =>
    refine .inl ⟨ElementTree.functionAround_of_orphan ?_, rfl⟩
    exact parent?_lower source root.rootSite.mem_sites_self
  | step Q hQ above C hC =>
    rw [functionAround_of_mem_children source hQ hC, varScope_of_mem_children hC]
    by_cases function : Q.opened? = some .function
    · rw [if_pos function, if_pos function]
      exact .inr ⟨Q, hQ, function, rfl, rfl⟩
    · rw [if_neg function, if_neg function]
      exact above

theorem ne_root_of_function (hF : F ∈ root.allSites) (function : F.opened? = some .function) :
    F.index ≠ ElementTree.root ∧ F.nextScope ≠ ScopeTree.root := by
  refine ⟨fun same => ?_, Nat.ne_of_gt (Nat.zero_lt_of_lt (ParseNode.scope_lt_nextScope hF))⟩
  rw [Site.eq_of_index hF root.rootSite.mem_sites_self same] at function
  cases function

theorem varScope_eq_iff (source : String) (hS : S ∈ root.allSites) {T : Site}
    (hT : T ∈ root.allSites) : S.varScope = T.varScope ↔
      (lower source root).tree.functionAround S.index =
        (lower source root).tree.functionAround T.index := by
  rcases function_around_lower source hS with ⟨f, s⟩ | ⟨F, hF, function, f, s⟩ <;>
    rcases function_around_lower source hT with ⟨g, t⟩ | ⟨G, hG, function', g, t⟩ <;>
    rw [f, g, s, t]
  · exact iff_of_true rfl rfl
  · exact iff_of_false (ne_root_of_function hG function').2.symm
      (ne_root_of_function hG function').1.symm
  · exact iff_of_false (ne_root_of_function hF function).2 (ne_root_of_function hF function).1
  · constructor
    · intro same
      rw [Site.opener_unique hF hG (Option.isSome_of_eq_some function)
        (Option.isSome_of_eq_some function') same]
    · intro same
      rw [Site.eq_of_index hF hG same]

theorem openedBy_lower (source : String) (hF : F ∈ root.allSites) (opens : F.opened?.isSome) :
    (lower source root).tree.OpenedBy (lower source root).scopes F.index F.nextScope := by
  have place := List.getElem?_idxOf ((index_mem_openers_iff source hF).mpr opens)
  have number := idxOf_openers source hF opens
  obtain ⟨kind, outer, _, scope, parent⟩ := opened_lower source place
  rw [number] at kind parent
  refine ⟨⟨_, number.symm, place⟩, kind, ⟨outer, scope, parent⟩, ?_⟩
  intro c child
  obtain ⟨C, hC, rfl⟩ := exists_site_lower (ElementTree.lt_size_of_parent child)
  rw [parent?_lower source hC] at child
  rcases Site.exists_parent hC with isRoot | ⟨Q, hQ, inside⟩
  · rw [isRoot] at child
    cases child
  · rw [Site.parent_of_mem_children inside] at child
    obtain rfl : Q = F := Site.eq_of_index hQ hF (Option.some.inj child)
    rw [scopeOf?_lower source hC, Site.scope_of_mem_children inside, if_pos opens]

end

/-- Every element hoists to the scope of the function that is found around it among the elements. -/
theorem varScope_lower (source : String) (root : ParseNode) {i : Nat}
    (inside : i < (lower source root).tree.size) :
    ∃ f s, (lower source root).tree.HoistsTo (lower source root).scopes i f s := by
  obtain ⟨S, hS, rfl⟩ := exists_site_lower inside
  have hoisted {T : Site} (hT : T ∈ root.allSites) :
      (lower source root).scopes.varScope T.scope = T.varScope :=
    varScope_of_nested (nested_lower source hT)
  have function := ElementTree.enclosingFunction?_eq inside
  refine ⟨_, S.scope, scopeOf?_lower source hS, function, ?module_iff, ?opened, ?shared_iff,
    ?returned⟩
  case module_iff =>
    have atRoot : (lower source root).tree.functionAround root.rootSite.index = ElementTree.root :=
      ElementTree.functionAround_of_orphan (parent?_lower source root.rootSite.mem_sites_self)
    rw [hoisted hS, ← atRoot]
    exact varScope_eq_iff source hS root.rootSite.mem_sites_self
  case opened =>
    intro ne
    rw [hoisted hS]
    rcases function_around_lower source hS with ⟨none, _⟩ | ⟨F, hF, opened, around, scope⟩
    · exact absurd none ne
    · rw [around, scope]
      exact ⟨(isFunction_lower source hF).mpr opened,
        openedBy_lower source hF (Option.isSome_of_eq_some opened)⟩
  case shared_iff =>
    intro j s' place
    have exist : j < (lower source root).tree.size := by
      rw [(lower_records source root).places, Option.map_eq_some_iff] at place
      obtain ⟨T, found, _⟩ := place
      rw [(lower_records source root).length]
      exact (List.getElem?_eq_some_iff.mp found).1
    obtain ⟨T, hT, rfl⟩ := exists_site_lower exist
    rw [scopeOf?_lower source hT] at place
    rw [← Option.some.inj place, hoisted hT, hoisted hS, ElementTree.enclosingFunction?_eq exist,
      Option.some_inj]
    exact varScope_eq_iff source hT hS
  case returned =>
    intro b g value same
    rw [GraphInput.addReturn?, same, function]
    rfl

theorem varScope_lower_identityArrow :
    let l := lower "(x) => x" ParseNode.identityArrow
    5 < l.tree.size ∧ ∃ s, l.scopes.varScope s = 1 ∧ l.tree.HoistsTo l.scopes 5 2 s := by
  have inside : 5 < (lower "(x) => x" ParseNode.identityArrow).tree.size := by
    rw [lower_eq_lowerTree]
    decide +kernel
  have function : (lower "(x) => x" ParseNode.identityArrow).tree.enclosingFunction? 5 =
      some 2 := by
    rw [lower_eq_lowerTree]
    decide +kernel
  have scope : ((lower "(x) => x" ParseNode.identityArrow).scopes.scopeOf? 5).map
      (lower "(x) => x" ParseNode.identityArrow).scopes.varScope = some 1 := by
    rw [lower_eq_lowerTree]
    decide +kernel
  obtain ⟨f, s, hoists⟩ := varScope_lower "(x) => x" ParseNode.identityArrow inside
  obtain rfl : 2 = f := Option.some.inj (function.symm.trans hoists.function)
  rw [hoists.scope] at scope
  exact ⟨inside, s, Option.some.inj scope, hoists⟩

end Lowering
end CrossReference
