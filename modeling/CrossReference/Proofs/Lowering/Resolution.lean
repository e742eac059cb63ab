import CrossReference.Proofs.Lowering.BindingTable
import CrossReference.Proofs.Lowering.EnclosingFunction
import CrossReference.Proofs.Lowering.Openers
import CrossReference.Proofs.Lowering.Roles

set_option autoImplicit false

/-!
# What a name resolves to

The element that a name resolves to declares that name. Functions keep their declarations to
themselves: seen from outside a function, no name resolves to an element inside it, unless it is
imported, or the function stands where the parameters of another should be listed:
`resolve?_lower`.
-/
namespace CrossReference

namespace Site

variable {root : ParseNode} {S F D X : Site} {b : Binder} {p : Nat} {kind : String}

inductive Imports (S : Site) (b : Binder) : Prop
  | specifier (kind : S.node.kind ∈ ["import_specifier", "namespace_import"])
      (declaring : b.declaring = S.index)
  | default (kind : S.node.kind = "import_clause") (part : b.pattern ∈ S.children)
      (name : b.pattern.node.kind = "identifier") (declaring : b.declaring = b.pattern.index)

/-- A site declares in the scope that it opens, in one around it, or in the module scope if it
    imports. A function that declares around itself declares itself. -/
inductive DeclaresIn (S : Site) (b : Binder) : Prop
  | inside (opens : S.opened?.isSome) (scope : b.scope = S.nextScope)
  | around (scope : b.scope = S.scope ∨ b.scope = S.varScope)
      (itself : S.node.kind ∈ functionKinds → b.declaring = S.index)
  | module (scope : b.scope = ScopeTree.root) (imports : S.Imports b)

theorem Declares.declaresIn (h : S.Declares b) (parent : S.parent = some (p, kind)) :
    S.DeclaresIn b := by
  have opened : S.opened? = openedScope? S.node.kind kind := by
    rw [opened?, parent]
    rfl
  cases h with
  | parameter function =>
    exact .inside (by rw [opened?_of_function parent function]; rfl) rfl
  | functionExpression expression =>
    have function := (Construct.mem_functionKinds_iff _).mpr (.inr (.inl expression))
    exact .inside (by rw [opened?_of_function parent function]; rfl) rfl
  | classExpression same | caught same | loopHead same =>
    exact .inside (by rw [opened, same]; simp [openedScope?, functionKinds]) rfl
  | varLoopHead same =>
    exact .around (.inr rfl) fun function => by simp [same, functionKinds] at function
  | functionDeclaration _ _ => exact .around (.inr rfl) fun _ => rfl
  | classDeclaration _ _ => exact .around (.inl rfl) fun _ => rfl
  | declarator _ _ _ => exact .around (.inl rfl) fun _ => rfl
  | varDeclarator _ _ _ => exact .around (.inr rfl) fun _ => rfl
  | importSpecifier same _ => exact .module rfl (.specifier (by simp [same]) rfl)
  | namespaceImport same _ => exact .module rfl (.specifier (by simp [same]) rfl)
  | defaultImport same part name => exact .module rfl (.default same part name rfl)

theorem Declares.declaring_eq (h : S.Declares b) :
    b.declaring = S.index ∨ b.declaring = b.pattern.index := by
  cases h
  all_goals first | exact .inl rfl | exact .inr rfl

theorem Declares.exists_declaring (h : S.Declares b) (hS : S ∈ root.allSites) :
    ∃ D ∈ root.allSites, D.index = b.declaring ∧ (D = S ∨ D = b.pattern) ∧
      b.pattern.sites ⊆ D.sites := by
  obtain ⟨Q, hosts, child⟩ := exists_host_of_declares h
  have pattern := mem_trans hosts.mem_sites (mem_sites_of_mem_children child)
  rcases h.declaring_eq with itself | own
  · exact ⟨S, hS, itself.symm, .inl rfl, (infix_of_mem pattern).subset⟩
  · exact ⟨b.pattern, mem_trans hS pattern, own.symm, .inr rfl, List.Subset.refl _⟩

/-- The site is a function, and `D` is just below what should be the list of its parameters. -/
structure Lists (S F D : Site) : Prop where
  function : S.node.kind ∈ functionKinds
  list : S.field? .parameters = some F
  child : D ∈ F.children

/-- What declares an element inside a site is itself inside, unless it lists its
    parameters there. -/
theorem Declares.mem_sites_or_lists (h : S.Declares b) (hS : S ∈ root.allSites)
    (hF : F ∈ root.allSites) (declared : D = S ∨ D = b.pattern) (hD : D ∈ F.sites) (ne : D ≠ F) :
    S ∈ F.sites ∨ S.Lists F D := by
  rcases declared with same | same
  · exact .inl (same ▸ hD)
  · obtain ⟨Q, hosts, child⟩ := exists_host_of_declares h
    rw [← same] at child
    have hQ := mem_trans hS hosts.mem_sites
    have inside := parent_mem_sites hF hQ child hD ne
    -- the pattern hangs from the site itself or from the list of its parameters, which may be `F`
    cases hosts with
    | itself => exact .inl inside
    | parameters function list =>
      by_cases here : Q = F
      · exact .inr ⟨function, here ▸ list, here ▸ child⟩
      · exact .inl (parent_mem_sites hF hS (mem_children_of_field? list) inside here)

theorem Lists.mem_parameters (h : S.Lists F D) : D ∈ S.parameters := by
  obtain ⟨c, given, _⟩ := Option.bind_eq_some_iff.mp h.list
  simp only [parameters, given, h.list, Option.map_some, Option.getD_some]
  exact h.child

theorem Lists.not_parameterLists (h : S.Lists F D) (wf : root.WellFormed) (hS : S ∈ root.allSites)
    (function : F.node.kind ∈ functionKinds) : ¬root.ParameterLists := by
  intro lists
  rw [lists S.node (node_mem_nodes hS) F.node (node_field? wf hS h.list)] at function
  simp [functionKinds] at function

/-- A declaration inside a function is made in a scope that is opened there, unless it imports. -/
theorem Declares.opens_or_imports (h : S.Declares b) (parent : S.parent = some (p, kind))
    (opened : F.opened? = some .function) (function : F.node.kind ∈ functionKinds)
    (hS : S ∈ F.sites) (other : b.declaring ≠ F.index) :
    F.Opens b.scope ∨ b.scope = ScopeTree.root ∧ S.Imports b := by
  cases h.declaresIn parent with
  | inside opens scope => exact .inl ⟨S, hS, opens, scope.symm⟩
  | around scope itself =>
    have ne : S ≠ F := by
      rintro rfl
      exact other (itself function)
    have opens := opens_scopes opened hS ne
    rcases scope with same | same
    · exact .inl (same ▸ opens.1)
    · exact .inl (same ▸ opens.2)
  | module scope imports => exact .inr ⟨scope, imports⟩

theorem Marks.mem_of_declares {T : Site} {role : Role} (h : T.Marks X role)
    (hT : T ∈ root.allSites) (hS : S ∈ root.allSites) (declares : S.Declares b)
    (names : b.pattern.Names X) : role = .declaration ∨ T ∈ S.sites := by
  have declared : S.Marks X .declaration := .declaration declares names
  have inside {P : Site} (child : P ∈ T.children) (leads : P.Leads X) : T ∈ S.sites :=
    leads.mem_of_other child hT hS declared.mem_sites declared.ne
      (PatternForm.ofKind_of_construct declares.construct_ne)
  cases h with
  | declaration _ _ => exact .inl rfl
  | write writes names => exact .inr (inside writes.mem_children (.inl names))
  | property renames => exact .inr (inside renames.mem_children (.inr rfl))

end Site

namespace ElementTree

/-- An import specifier, a namespace import, or the identifier of a default import. -/
def BindsImport (t : ElementTree) (i : Nat) : Prop :=
  ∃ e, t.element? i = some e ∧ (e.kind ∈ ["import_specifier", "namespace_import"] ∨
    e.kind = "identifier" ∧
      ∃ p parent, e.parent = some p ∧ t.element? p = some parent ∧ parent.kind = "import_clause")

/-- The element `f` stands in the place of the parameter list of another function, and `i` is one of
    the parameters. -/
def ListsParameter (t : ElementTree) (f i : Nat) : Prop :=
  t.parent? i = some f ∧ ∃ p e name parameters body, t.parent? f = some p ∧
    t.element? p = some e ∧ e.shape = .function name parameters body ∧ i ∈ parameters

end ElementTree

namespace Lowering

section
variable {source : String} {root : ParseNode} {S X D U : Site} {b : Binder} {name : String}
  {d : Nat}

/-- Sites inside the one that declares a name are left before it, so from its mark on the name is
    marked as a declaration only. -/
theorem exists_marks_after (left : S ∈ ParseNode.leaveOrderIn root.rootSite.below root.children)
    (declares : S.Declares b) (names : b.pattern.Names X) :
    ∃ earlier later, marksMade root = earlier ++ later ∧ (X.index, .declaration) ∈ later ∧
      ∀ mark ∈ later, mark.1 = X.index → mark.2 = .declaration := by
  have declared : S.Marks X .declaration := .declaration declares names
  have hS := (ParseNode.mem_leaveOrder_iff.mp left).1
  have hX := Site.mem_trans hS declared.mem_sites
  obtain ⟨a, c, split⟩ := List.append_of_mem left
  have after : ∀ T ∈ c, T ∈ root.allSites ∧ T ∉ S.sites := by
    have ordered := ParseNode.pairwise_leaveOrderIn root.rootSite.below root.children
    rw [split, List.pairwise_append, List.pairwise_cons] at ordered
    intro T hT
    refine ⟨(ParseNode.mem_leaveOrder_iff.mp ?_).1, ordered.2.1.1 T hT⟩
    rw [split]
    exact List.mem_append_right _ (List.mem_cons_of_mem _ hT)
  refine ⟨a.flatMap Site.marks ++ S.renamed.map fun X => (X.index, .property),
    Site.marksOf (S.binders.map Binder.pattern) .declaration ++
      (Site.marksOf S.targets .write ++ c.flatMap Site.marks), ?_, ?_, ?_⟩
  · rw [marksMade, split, List.flatMap_append, List.flatMap_cons, Site.marks]
    simp only [List.append_assoc]
  · exact List.mem_append_left _ (Site.mem_marksOf_iff.mpr
      ⟨b.pattern, List.mem_map_of_mem (Site.mem_binders_iff.mpr declares), X, names, rfl⟩)
  · rintro ⟨i, role⟩ made rfl
    rcases List.mem_append.mp made with own | made
    · obtain ⟨_, _, _, _, eq⟩ := Site.mem_marksOf_iff.mp own
      exact (congrArg Prod.snd eq).symm
    rcases List.mem_append.mp made with written | made
    · obtain ⟨P, hP, _⟩ := Site.mem_marksOf_iff.mp written
      exact absurd declares ((Site.mem_targets_iff.mp hP).not_declares b)
    · obtain ⟨T, hT, made⟩ := List.mem_flatMap.mp made
      obtain ⟨Y, same, marks⟩ := Site.mem_marks_iff.mp made
      obtain ⟨hT', outside⟩ := after T hT
      obtain rfl := Site.eq_of_index (Site.mem_trans hT' marks.mem_sites) hX same
      exact (marks.mem_of_declares hT' hS declares names).resolve_right outside

theorem role?_of_declares (source : String) (wf : root.WellFormed)
    (left : S ∈ ParseNode.leaveOrderIn root.rootSite.below root.children) (declares : S.Declares b)
    (names : b.pattern.Names X) :
    (lower source root).tree.role? X.index = some .declaration := by
  have hS := (ParseNode.mem_leaveOrder_iff.mp left).1
  have marks : S.Marks X .declaration := .declaration declares names
  have pattern := Site.pattern_of_mem_binders (List.Subset.refl _)
    (Site.mem_binders_iff.mpr declares)
  obtain ⟨start, initial⟩ := names.exists_startRole? pattern.2
  obtain ⟨earlier, later, split, made, agree⟩ := exists_marks_after left declares names
  rw [role?_lower source wf (Site.mem_trans hS marks.mem_sites), initial, Option.map_some, split,
    roleAfter_append, roleAfter_eq agree (.inr ⟨_, made, rfl⟩)]

theorem shape_of_role? (hX : X ∈ root.allSites) {role : Role}
    (h : (lower source root).tree.role? X.index = some role) :
    ∃ e, (lower source root).tree.element? X.index = some e ∧
      e.shape = .identifier (X.text source) role := by
  obtain ⟨e, found, outline⟩ := element_lower source hX
  rw [ElementTree.role?_eq found] at h
  obtain ⟨name, shape⟩ := Element.role?_eq_some_iff.mp h
  have named : e.name? = some name := by rw [Element.name?, shape]
  rw [show e.name? = _ from congrArg Element.Outline.name? outline, Site.outline] at named
  obtain ⟨_, _, named⟩ := Option.bind_eq_some_iff.mp named
  obtain ⟨_, _, rfl⟩ := Option.map_eq_some_iff.mp named
  exact ⟨e, found, shape⟩

theorem not_read_of_declares (source : String) (wf : root.WellFormed)
    (left : S ∈ ParseNode.leaveOrderIn root.rootSite.below root.children) (declares : S.Declares b)
    (names : b.pattern.Names X) (hD : D ∈ root.allSites) (declared : D = S ∨ D = b.pattern) :
    (lower source root).tree.role? D.index ≠ some .read := by
  have silent (initial : initialRole? D.node.kind = none) :
      (lower source root).tree.role? D.index ≠ some .read := by
    rw [role?_lower source wf hD, Site.startRole?, initial]
    cases D.parent <;> simp
  rcases declared with same | same
  · apply silent
    cases initial : initialRole? D.node.kind with
    | none => rfl
    | some role =>
      rw [same] at initial
      exact absurd (Construct.ofKind_of_initialRole initial) declares.construct_ne
  · rcases names.eq_or_initialRole? with own | initial
    · rw [same, ← own, role?_of_declares source wf left declares names]
      decide
    · exact silent (same ▸ initial)

theorem exists_binder_of_resolve? (wf : root.WellFormed) (hU : U ∈ root.allSites)
    (found : (lower source root).scopes.resolve? U.index name = some d) :
    ∃ scope ∈ U.around, (lower source root).scopes.lookupLocal? scope.1 name = some d ∧
      ∃ S ∈ ParseNode.leaveOrderIn root.rootSite.below root.children, ∃ b, S.Declares b ∧
        b.scope = scope.1 ∧ b.declaring = d ∧ ∃ X, b.pattern.Names X ∧ X.text source = name := by
  have nested := nested_lower source hU
  rw [ScopeTree.resolve?, scopeOf?_lower source hU,
    Option.bind_some] at found
  have declaredAround : ∃ scope ∈ U.around,
      (lower source root).scopes.lookupLocal? scope.1 name = some d := by
    rw [Slot.scope] at found
    cases around : U.around with
    | nil => exact absurd around (Site.around_ne_nil hU)
    | cons first rest =>
      rw [around] at nested found
      exact ScopeTree.exists_of_lookup? nested found
  obtain ⟨scope, hs, declares⟩ := declaredAround
  refine ⟨scope, hs, declares, ?_⟩
  rw [lower_table source wf, declared] at declares
  obtain ⟨b, first, declaring⟩ := Option.map_eq_some_iff.mp declares
  obtain ⟨S, left, hb⟩ := List.mem_flatMap.mp (List.mem_of_find?_eq_some first)
  have binds := List.find?_some first
  obtain ⟨same, names⟩ := of_decide_eq_true binds
  obtain ⟨X, hX, text⟩ := List.mem_map.mp names
  exact ⟨S, left, b, Site.mem_binders_iff.mp hb, same, declaring, X, Site.mem_names_iff.mp hX, text⟩

theorem bindsImport_of_imports (hS : S ∈ root.allSites) (hD : D ∈ root.allSites)
    (imports : S.Imports b) (number : D.index = b.declaring) :
    (lower source root).tree.BindsImport D.index := by
  obtain ⟨e, found, outline⟩ := element_lower source hD
  refine ⟨e, found, ?_⟩
  rw [kind_of_found hD found]
  cases imports with
  | specifier kind declaring =>
    obtain rfl := Site.eq_of_index hD hS (number.trans declaring)
    exact .inl kind
  | default kind part name declaring =>
    obtain rfl := Site.eq_of_index hD (Site.mem_trans hS (Site.mem_sites_of_mem_children part))
      (number.trans declaring)
    obtain ⟨parent, foundParent, _⟩ :=
      element_lower source hS
    refine .inr ⟨name, S.index, parent, ?_, foundParent, (kind_of_found hS foundParent).trans kind⟩
    rw [show e.parent = _ from congrArg Element.Outline.parent outline, Site.outline,
      Site.parent_of_mem_children part]
    rfl

theorem exists_site_of_resolve? {u : Nat}
    (found : (lower source root).scopes.resolve? u name = some d) :
    ∃ U ∈ root.allSites, U.index = u := by
  obtain ⟨scope, place, _⟩ := Option.bind_eq_some_iff.mp found
  rw [(lower_records source root).places] at place
  obtain ⟨U, here, _⟩ := Option.map_eq_some_iff.mp place
  apply exists_site_lower
  rw [(lower_records source root).length]
  exact (List.getElem?_eq_some_iff.mp here).1

theorem listsParameter_of_lists (source : String) (wf : root.WellFormed) {F : Site}
    (left : S ∈ ParseNode.leaveOrderIn root.rootSite.below root.children) (lists : S.Lists F D) :
    (lower source root).tree.ListsParameter F.index D.index := by
  obtain ⟨hS, inner⟩ := ParseNode.mem_leaveOrder_iff.mp left
  have childF := Site.mem_children_of_field? lists.list
  have hF := Site.mem_trans hS (Site.mem_sites_of_mem_children childF)
  have hD := Site.mem_trans hF (Site.mem_sites_of_mem_children lists.child)
  obtain ⟨p, kind, parent⟩ := Site.exists_slot_of_ne hS inner
  obtain ⟨e, found, _⟩ := element_lower source hS
  have function := (isFunction_lower source hS).mpr (Site.opened?_of_function parent lists.function)
  rw [ElementTree.isFunction, found, Option.any_some, Element.isFunction] at function
  split at function
  · next name parameters body shape =>
    obtain ⟨S', hS', same, _, _, own⟩ := shape_lower_function wf found shape
    obtain rfl := Site.eq_of_index hS' hS same
    rw [Site.functionShape, shape, Shape.function.injEq] at own
    refine ⟨?_, S'.index, e, name, parameters, body, ?_, found, shape, ?_⟩
    · rw [parent?_lower source hD, Site.parent_of_mem_children lists.child]
      rfl
    · rw [parent?_lower source hF, Site.parent_of_mem_children childF]
      rfl
    · rw [own.2.1]
      exact List.mem_map_of_mem lists.mem_parameters
  · cases function

theorem imports_of_outside {F : Site} (hF : F ∈ root.allSites)
    (function : F.node.kind ∈ functionKinds) (hU : U ∈ root.allSites) (outside : U ∉ F.sites)
    (inside : S ∈ F.sites) (declares : S.Declares b) (other : b.declaring ≠ F.index)
    {scope : ScopeId × ScopeKind} (around : scope ∈ U.around) (same : b.scope = scope.1) :
    b.scope = ScopeTree.root ∧ S.Imports b := by
  have inner : F ≠ root.rootSite := by
    rintro rfl
    exact outside hU
  obtain ⟨p, kind, parentF⟩ := Site.exists_slot_of_ne hF inner
  have innerS : S ≠ root.rootSite := by
    rintro rfl
    exact inner (Site.eq_of_mem_of_mem hF inside)
  obtain ⟨p', kind', parentS⟩ := Site.exists_slot_of_ne (Site.mem_trans hF inside) innerS
  rcases declares.opens_or_imports parentS (Site.opened?_of_function parentF function) function
    inside other with opens | imports
  · exact absurd (opens.mem_sites hF hU around same.symm) outside
  · exact imports

end

/-- What a name resolves to is an identifier of that name that is declared, or lies around one; it
    is no use of the name. Seen from outside a function it lies in the function only if it is an
    import, which is declared in the module scope, or if the function stands as the list of
    parameters of another, which then declares its parameters there. The grammar gives no
    such tree. -/
theorem resolve?_lower (source : String) {root : ParseNode} (wf : root.WellFormed) {u d : Nat}
    {name : String} (found : (lower source root).scopes.resolve? u name = some d) :
    let t := (lower source root).tree
    (∃ x e, (x = d ∨ d ∈ t.ancestors x) ∧ t.element? x = some e ∧
      e.shape = .identifier name .declaration ∧ (t.role? u = some .read → x ≠ u)) ∧
    (t.role? u = some .read → d ≠ u) ∧
    ∀ F f, t.element? F = some f → f.kind ∈ functionKinds →
      u ≠ F → F ∉ t.ancestors u → F ∈ t.ancestors d →
      (t.BindsImport d ∧ (lower source root).scopes.lookupLocal? ScopeTree.root name = some d) ∨
        (t.ListsParameter F d ∧ ¬root.ParameterLists) := by
  obtain ⟨U, hU, rfl⟩ := exists_site_of_resolve? found
  obtain ⟨scope, around, here, S, left, b, declares, same, declaring, X, names, rfl⟩ :=
    exists_binder_of_resolve? wf hU found
  have hS := (ParseNode.mem_leaveOrder_iff.mp left).1
  obtain ⟨D, hD, number, declared, covers⟩ := declares.exists_declaring hS
  obtain rfl : D.index = d := number.trans declaring
  have inside := covers names.mem_sites
  have role := role?_of_declares source wf left declares names
  obtain ⟨e, foundX, shape⟩ := shape_of_role? (Site.mem_trans hD inside) role
  refine ⟨⟨X.index, e, ?_, foundX, shape, ?_⟩, ?_, ?_⟩
  · by_cases own : X = D
    · exact .inl (own ▸ rfl)
    · exact .inr ((mem_ancestors_lower source hD (Site.mem_trans hD inside)).mpr ⟨inside, own⟩)
  · intro read eq
    rw [eq, read] at role
    cases role
  · intro read eq
    rw [← eq] at read
    exact not_read_of_declares source wf left declares names hD declared read
  · intro i f foundF function ne outside above
    obtain ⟨F, hF, rfl⟩ := exists_site_lower (ElementTree.lt_size_of_element foundF)
    obtain ⟨inF, neF⟩ := (mem_ancestors_lower source hF hD).mp above
    have outsideF : U ∉ F.sites := by
      intro inside
      refine outside ((mem_ancestors_lower source hF hU).mpr ⟨inside, ?_⟩)
      rintro rfl
      exact ne rfl
    rw [kind_of_found hF foundF] at function
    rcases declares.mem_sites_or_lists hS hF declared inF neF with inside | lists
    · have other : b.declaring ≠ F.index := fun eq =>
        neF (Site.eq_of_index hD hF (number.trans eq))
      obtain ⟨module, imports⟩ := imports_of_outside hF function hU outsideF inside declares other
        around same
      refine .inl ⟨bindsImport_of_imports hS hD imports number, ?_⟩
      rw [← module, same]
      exact here
    · exact .inr ⟨listsParameter_of_lists source wf left lists,
        lists.not_parameterLists wf hS function⟩

/-- The function `f` declares a parameter of the name, which is not what the use outside finds. -/
theorem resolve?_lower_functionAndCall :
    let l := lower ParseNode.functionAndCallSource .functionAndCall
    ParseNode.functionAndCall.WellFormed ∧ l.scopes.resolve? 14 "x" = some 9 ∧
      l.tree.role? 14 = some .read ∧ 1 ∉ l.tree.ancestors 14 ∧
      (l.tree.element? 1).map Element.kind = some "function_declaration" ∧
      l.scopes.lookupLocal? 1 "x" = some 4 ∧ 1 ∈ l.tree.ancestors 4 ∧
      (∃ x e, (x = 9 ∨ 9 ∈ l.tree.ancestors x) ∧ l.tree.element? x = some e ∧
        e.shape = .identifier "x" .declaration ∧ x ≠ 14) ∧
      ∀ F f, l.tree.element? F = some f → f.kind ∈ functionKinds → 14 ≠ F →
        F ∉ l.tree.ancestors 14 → F ∉ l.tree.ancestors 9 := by
  intro l
  obtain ⟨found, read, around, function, parameter, declarator⟩ :
      l.scopes.resolve? 14 "x" = some 9 ∧ l.tree.role? 14 = some .read ∧
      1 ∉ l.tree.ancestors 14 ∧
      (l.tree.element? 1).map Element.kind = some "function_declaration" ∧
      (l.scopes.lookupLocal? 1 "x" = some 4 ∧ 1 ∈ l.tree.ancestors 4) ∧
      (l.tree.element? 9).map Element.kind = some "variable_declarator" := by
    unfold l
    rw [lower_eq_lowerTree]
    decide +kernel
  obtain ⟨⟨x, e, above, here, shape, apart⟩, _, outside⟩ :=
    resolve?_lower ParseNode.functionAndCallSource ParseNode.functionAndCall_wellFormed found
  refine ⟨ParseNode.functionAndCall_wellFormed, found, read, around, function, parameter.1,
    parameter.2, ⟨x, e, above, here, shape, apart read⟩, ?_⟩
  intro F f foundF function ne away inside
  rcases outside F f foundF function ne away inside with ⟨⟨e, same, binds⟩, _⟩ | ⟨_, lists⟩
  · rw [same, Option.map_some, Option.some_inj] at declarator
    rw [declarator] at binds
    simp at binds
  · exact lists ParseNode.functionAndCall_parameterLists

/-- A tree for `x => x` in which a function stands as the list of parameters of the arrow. -/
def functionAsParameters : ParseNode :=
  let head (number : Nat) (kind : String) (start stop : UInt64) (isNamed : Bool) : NodeHead :=
    ⟨number, kind, ⟨start, stop⟩, isNamed, false, false, false, false⟩
  let parameter : ParseNode := .mk (head 4 "identifier" 0 1 true) [] []
  let parameters : ParseNode := .mk (head 3 "function_expression" 0 1 true) [] [parameter]
  let body : ParseNode := .mk (head 6 "identifier" 5 6 true) [] []
  let arrow : ParseNode :=
    .mk (head 2 "arrow_function" 0 6 true) [(.parameters, parameters), (.body, body)]
      [parameters, .mk (head 5 "=>" 2 4 false) [] [], body]
  .mk (head 0 "program" 0 6 true) []
    [.mk (head 1 "expression_statement" 0 6 true) [] [arrow]]

/-- The body of the arrow is outside that function, and its name resolves to an element inside. -/
theorem resolve?_into_function :
    let l := lower "x => x" functionAsParameters
    functionAsParameters.WellFormed ∧ functionAsParameters.kind = "program" ∧
      l.scopes.resolve? 5 "x" = some 4 ∧
      (∃ f, l.tree.element? 3 = some f ∧ f.kind ∈ functionKinds) ∧
      3 ∉ l.tree.ancestors 5 ∧ 3 ∈ l.tree.ancestors 4 ∧ ¬l.tree.BindsImport 4 := by
  intro l
  have wf : functionAsParameters.WellFormed := by
    constructor
    · decide
    · simp [-Prod.forall, functionAsParameters, ParseNode.nodes, ParseNode.nodesIn,
        ParseNode.fields, ParseNode.children]
  obtain ⟨resolved, outside, inside, function, parameter⟩ : l.scopes.resolve? 5 "x" = some 4 ∧
      3 ∉ l.tree.ancestors 5 ∧ 3 ∈ l.tree.ancestors 4 ∧
      (l.tree.element? 3).map Element.kind = some "function_expression" ∧
      (l.tree.element? 4).map (fun e => (e.kind, e.parent)) = some ("identifier", some 3) := by
    unfold l
    rw [lower_eq_lowerTree]
    decide +kernel
  obtain ⟨f, foundF, kindF⟩ := Option.map_eq_some_iff.mp function
  refine ⟨wf, rfl, resolved, ⟨f, foundF, by rw [kindF]; decide⟩, outside, inside, ?_⟩
  rintro ⟨e, found, binds⟩
  rw [found, Option.map_some, Option.some_inj, Prod.mk.injEq] at parameter
  rcases binds with imported | ⟨_, p, clause, up, foundP, kind⟩
  · simp [parameter.1] at imported
  · cases parameter.2.symm.trans up
    cases foundF.symm.trans foundP
    simp [kindF] at kind

end Lowering
end CrossReference
