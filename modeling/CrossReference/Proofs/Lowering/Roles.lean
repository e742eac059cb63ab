import CrossReference.Proofs.Lowering.Marks
import CrossReference.Proofs.Lowering.Nesting

set_option autoImplicit false

/-!
# The roles of identifiers

No name is marked by two sites: the site that marks it, or the list of its parameters, is the
nearest one around the name that is no part of a pattern. So an identifier has the role that it is
marked with, and is read where it is not marked: `role_lower`.
-/
namespace CrossReference

namespace Site

variable {root : ParseNode} {S S' P Q X Y : Site} {role role' : Role}

def Leads (P X : Site) : Prop := P.Names X ∨ X = P

theorem Leads.mem_sites (h : P.Leads X) : X ∈ P.sites := by
  rcases h with names | same
  · exact names.mem_sites
  · rw [same]
    exact P.mem_sites_self

theorem Leads.inside (h : P.Leads X) (child : P ∈ Q.children) : X ∈ Q.sites ∧ X ≠ Q := by
  have below := mem_sites_of_mem_children child
  refine ⟨mem_trans below h.mem_sites, fun same => ?_⟩
  have above := h.mem_sites
  rw [same] at above
  exact ne_of_mem_children child (eq_of_mem_of_mem below above)

theorem Names.between (h : P.Names X) (below : Y ∈ P.sites) (inside : X ∈ Y.sites) (ne : X ≠ Y) :
    PatternForm.ofKind Y.node.kind ≠ .nothing := by
  have step {P C X : Site} (form : PatternForm) (known : form ≠ .nothing)
      (kind : P.node.kind ∈ form.kinds) (child : C ∈ P.children) (names : C.Names X)
      (ih : Y ∈ C.sites → X ∈ Y.sites → X ≠ Y → PatternForm.ofKind Y.node.kind ≠ .nothing)
      (below : Y ∈ P.sites) (inside : X ∈ Y.sites) (ne : X ≠ Y) :
      PatternForm.ofKind Y.node.kind ≠ .nothing := by
    by_cases here : Y = P
    · rw [here, PatternForm.ofKind_of_mem kind]
      exact known
    · obtain ⟨D, hD, inD⟩ := exists_child_of_ne below here
      rw [← child_unique child hD names.mem_sites (mem_trans inD inside)] at inD
      exact ih inD inside ne
  induction h with
  | name kind => exact absurd (eq_of_mem_of_mem inside below) ne
  | part kind child names ih =>
    exact step .allChildren (by decide) kind child names ih below inside ne
  | withDefault kind child names ih =>
    exact step .firstChild (by decide) kind (List.mem_of_head? child) names ih below inside ne
  | pair kind child names ih =>
    exact step .lastChild (by decide) (List.mem_singleton.mpr kind) (List.mem_of_getLast? child)
      names ih below inside ne

/-- What is no pattern and lies around a name lies around all that leads to the name. -/
theorem Leads.mem_of_other (h : P.Leads X) (child : P ∈ Q.children) (hQ : Q ∈ root.allSites)
    (hY : Y ∈ root.allSites) (inside : X ∈ Y.sites) (ne : X ≠ Y)
    (other : PatternForm.ofKind Y.node.kind = .nothing) : Q ∈ Y.sites := by
  rcases mem_or_mem hQ hY (h.inside child).1 inside with around | below
  · exact around
  · by_cases same : Y = Q
    · rw [same]
      exact Q.mem_sites_self
    · obtain ⟨D, hD, inD⟩ := exists_child_of_ne below same
      rw [← child_unique child hD h.mem_sites (mem_trans inD inside)] at inD
      rcases h with names | same
      · exact absurd other (names.between inD inside ne)
      · rw [← same] at inD
        exact absurd (eq_of_mem_of_mem inside inD) ne

/-- What leads to a name starts below one site only that is no pattern: the nearest one around the
    name. -/
theorem Leads.parent_eq {Q' P' : Site} (h : P.Leads X) (h' : P'.Leads X) (child : P ∈ Q.children)
    (child' : P' ∈ Q'.children) (hQ : Q ∈ root.allSites) (hQ' : Q' ∈ root.allSites)
    (other : PatternForm.ofKind Q.node.kind = .nothing)
    (other' : PatternForm.ofKind Q'.node.kind = .nothing) : Q = Q' := by
  obtain ⟨inside, ne⟩ := h.inside child
  obtain ⟨inside', ne'⟩ := h'.inside child'
  exact eq_of_mem_of_mem (h.mem_of_other child hQ hQ' inside' ne' other')
    (h'.mem_of_other child' hQ' hQ inside ne other)

theorem Marks.construct_ne (h : S.Marks X role) : Construct.ofKind S.node.kind ≠ .other := by
  intro other
  have none : S.marks = [] := by
    simp [marks, marksOf, binders, innerBinders, outerBinders, targets, innerTargets, outerTargets,
      renamed, other]
  have given : (X.index, role) ∈ S.marks := mem_marks_iff.mpr ⟨X, rfl, h⟩
  rw [none] at given
  cases given

theorem Marks.ne (h : S.Marks X role) : X ≠ S := by
  obtain ⟨Q, P, hosts, child, leads⟩ := h.hosted
  obtain ⟨inside, ne⟩ := Leads.inside leads child
  rintro rfl
  exact ne (eq_of_mem_of_mem inside hosts.mem_sites)

theorem Writes.not_declares (h : S.Writes P) (b : Binder) : ¬S.Declares b := by
  suffices none : S.binders = [] by
    rw [← mem_binders_iff, none]
    exact List.not_mem_nil
  rcases h with ⟨kind, _⟩ | ⟨kind, _, noWord⟩
  · have construct : Construct.ofKind S.node.kind = .assignment := Construct.ofKind_of_mem kind
    simp [binders, innerBinders, outerBinders, construct]
  · have construct : Construct.ofKind S.node.kind = .forInLoop :=
      Construct.ofKind_of_mem (List.mem_singleton.mpr kind)
    simp [binders, innerBinders, outerBinders, construct, noWord]

theorem Writes.not_renames (h : S.Writes P) : ¬S.Renames X := by
  suffices none : S.renamed = [] by
    rw [← mem_renamed_iff, none]
    exact List.not_mem_nil
  rcases h with ⟨kind, _⟩ | ⟨kind, _⟩
  · have construct : Construct.ofKind S.node.kind = .assignment := Construct.ofKind_of_mem kind
    simp [renamed, construct]
  · have construct : Construct.ofKind S.node.kind = .forInLoop :=
      Construct.ofKind_of_mem (List.mem_singleton.mpr kind)
    simp [renamed, construct]

theorem Renames.not_names (h : S.Renames X) (wf : root.WellFormed) (distinct : root.FieldsDistinct)
    (hS : S ∈ root.allSites) {b : Binder} (declares : S.Declares b) : ¬b.pattern.Names X := by
  intro names
  have binder := mem_binders_iff.mpr declares
  cases h with
  | @imported A kind renamed name =>
    have construct : Construct.ofKind S.node.kind = .importSpecifier :=
      Construct.ofKind_of_mem (List.mem_singleton.mpr kind)
    have only : b = ⟨ScopeTree.root, A, S.index⟩ := by
      simpa [binders, innerBinders, outerBinders, construct, renamed] using binder
    rw [only] at names
    have same := child_unique (mem_children_of_field? renamed) (mem_children_of_field? name)
      names.mem_sites X.mem_sites_self
    rw [same] at renamed
    have fields := distinct S.node (node_mem_nodes hS) _ _ _ (node_field? wf hS renamed)
      (node_field? wf hS name)
    cases fields
  | exported kind name =>
    have construct : Construct.ofKind S.node.kind = .exportSpecifier :=
      Construct.ofKind_of_mem (List.mem_singleton.mpr kind)
    simp [binders, innerBinders, outerBinders, construct] at binder

theorem Hosts.form_eq (h : S.Hosts Q) (wf : root.WellFormed) (lists : root.ParameterLists)
    (hS : S ∈ root.allSites) (construct : Construct.ofKind S.node.kind ≠ .other) :
    PatternForm.ofKind Q.node.kind = .nothing := by
  cases h with
  | itself => exact PatternForm.ofKind_of_construct construct
  | parameters _ list =>
    rw [lists S.node (node_mem_nodes hS) Q.node (node_field? wf hS list)]
    rfl

theorem Marks.site_eq (h : S.Marks X role) (h' : S'.Marks X role') (wf : root.WellFormed)
    (lists : root.ParameterLists) (hS : S ∈ root.allSites) (hS' : S' ∈ root.allSites) : S = S' := by
  obtain ⟨Q, P, hosts, child, leads⟩ := h.hosted
  obtain ⟨Q', P', hosts', child', leads'⟩ := h'.hosted
  obtain rfl : Q = Q' := Leads.parent_eq leads leads' child child' (mem_trans hS hosts.mem_sites)
    (mem_trans hS' hosts'.mem_sites) (hosts.form_eq wf lists hS h.construct_ne)
    (hosts'.form_eq wf lists hS' h'.construct_ne)
  have list {S S' : Site} (hS : S ∈ root.allSites) (list : S.field? .parameters = some S')
      (construct : Construct.ofKind S'.node.kind ≠ .other) : False := by
    rw [lists S.node (node_mem_nodes hS) S'.node (node_field? wf hS list)] at construct
    exact construct rfl
  cases hosts with
  | itself =>
    cases hosts' with
    | itself => rfl
    | parameters _ found => exact (list hS' found h.construct_ne).elim
  | parameters _ found =>
    cases hosts' with
    | itself => exact (list hS found h'.construct_ne).elim
    | parameters _ found' =>
      exact parent_unique hS hS' (mem_children_of_field? found) (mem_children_of_field? found')

theorem Marks.role_eq (h : S.Marks X role) (h' : S'.Marks X role') (wf : root.WellFormed)
    (lists : root.ParameterLists) (distinct : root.FieldsDistinct) (hS : S ∈ root.allSites)
    (hS' : S' ∈ root.allSites) : role = role' := by
  obtain rfl := h.site_eq h' wf lists hS hS'
  cases h with
  | declaration declares names =>
    cases h' with
    | declaration _ _ => rfl
    | write writes _ => exact absurd declares (writes.not_declares _)
    | property renames => exact absurd names (renames.not_names wf distinct hS declares)
  | write writes _ =>
    cases h' with
    | declaration declares _ => exact absurd declares (writes.not_declares _)
    | write _ _ => rfl
    | property renames => exact absurd renames writes.not_renames
  | property renames =>
    cases h' with
    | declaration declares names => exact absurd names (renames.not_names wf distinct hS declares)
    | write writes _ => exact absurd renames writes.not_renames
    | property _ => rfl

end Site

/-- Some site gives the role to the element of that number. -/
def ParseNode.Marks (root : ParseNode) (i : Nat) (role : Role) : Prop :=
  ∃ S ∈ root.allSites, ∃ X, X.index = i ∧ S.Marks X role

theorem ParseNode.Marks.role_eq {root : ParseNode} {i : Nat} {role role' : Role}
    (h : root.Marks i role) (h' : root.Marks i role') (wf : root.WellFormed)
    (lists : root.ParameterLists) (distinct : root.FieldsDistinct) : role = role' := by
  obtain ⟨S, hS, X, number, marks⟩ := h
  obtain ⟨S', hS', X', number', marks'⟩ := h'
  obtain rfl := Site.eq_of_index (Site.mem_trans hS marks.mem_sites)
    (Site.mem_trans hS' marks'.mem_sites) (number.trans number'.symm)
  exact marks.role_eq marks' wf lists distinct hS hS'

namespace Lowering

theorem mem_marksMade_iff {root : ParseNode} (program : root.kind = "program")
    {mark : Nat × Role} : mark ∈ marksMade root ↔ root.Marks mark.1 mark.2 := by
  simp only [marksMade, List.mem_flatMap, ParseNode.mem_leaveOrder_iff, Site.mem_marks_iff,
    ParseNode.Marks]
  constructor
  · rintro ⟨S, ⟨hS, _⟩, marked⟩
    exact ⟨S, hS, marked⟩
  · rintro ⟨S, hS, X, same, marks⟩
    refine ⟨S, ⟨hS, fun isRoot => marks.construct_ne ?_⟩, X, same, marks⟩
    rw [isRoot, show root.rootSite.node.kind = "program" from program]
    rfl

theorem roleAfter_of_marks {root : ParseNode} (program : root.kind = "program")
    (wf : root.WellFormed) (lists : root.ParameterLists) (distinct : root.FieldsDistinct)
    {i : Nat} {role : Role} (given : root.Marks i role) (start : Role) :
    roleAfter i start (marksMade root) = role := by
  apply roleAfter_eq ?_ (.inr ⟨(i, role), (mem_marksMade_iff program).mpr given, rfl⟩)
  rintro mark made rfl
  exact ((mem_marksMade_iff program).mp made).role_eq given wf lists distinct

theorem roleAfter_of_unmarked {root : ParseNode} (program : root.kind = "program") {i : Nat}
    (unmarked : ∀ role, ¬root.Marks i role) (start : Role) :
    roleAfter i start (marksMade root) = start := by
  apply roleAfter_eq ?_ (.inl rfl)
  rintro mark made rfl
  exact absurd ((mem_marksMade_iff program).mp made) (unmarked mark.2)

section
variable {source : String} {root : ParseNode} {X : Site} {e : Element}

theorem kind_of_found (hX : X ∈ root.allSites)
    (found : (lower source root).tree.element? X.index = some e) : e.kind = X.node.kind := by
  obtain ⟨_, found', outline⟩ := element_lower source hX
  obtain rfl := Option.some.inj (found.symm.trans found')
  exact congrArg Element.Outline.kind outline

theorem role?_of_found (program : root.kind = "program") (wf : root.WellFormed)
    (hX : X ∈ root.allSites) (found : (lower source root).tree.element? X.index = some e) :
    e.role? = (initialRole? e.kind).map fun role => roleAfter X.index role (marksMade root) := by
  have kind := kind_of_found hX found
  have last := role?_lower source wf hX
  rw [ElementTree.role?_eq found] at last
  rw [last, kind]
  rcases Site.exists_parent hX with same | ⟨Q, _, child⟩
  · rw [same, show root.rootSite.node.kind = "program" from program]
    rfl
  · rw [Site.startRole?, Site.parent_of_mem_children child]
    rfl

theorem role?_iff_of_found (program : root.kind = "program") (wf : root.WellFormed)
    (lists : root.ParameterLists) (distinct : root.FieldsDistinct) (hX : X ∈ root.allSites)
    (found : (lower source root).tree.element? X.index = some e) {start : Role}
    (initial : initialRole? e.kind = some start) (role : Role) :
    e.role? = some role ↔
      root.Marks X.index role ∨ role = start ∧ ∀ other, ¬root.Marks X.index other := by
  rw [role?_of_found program wf hX found, initial, Option.map_some, Option.some_inj]
  by_cases marked : ∃ given, root.Marks X.index given
  · obtain ⟨given, marks⟩ := marked
    rw [roleAfter_of_marks program wf lists distinct marks]
    constructor
    · rintro rfl
      exact .inl marks
    · rintro (marks' | ⟨_, unmarked⟩)
      · exact marks.role_eq marks' wf lists distinct
      · exact absurd marks (unmarked given)
  · have unmarked (given : Role) (marks : root.Marks X.index given) : False :=
      marked ⟨given, marks⟩
    rw [roleAfter_of_unmarked program unmarked]
    constructor
    · rintro rfl
      exact .inr ⟨rfl, unmarked⟩
    · rintro (marks | ⟨rfl, _⟩)
      · exact (unmarked role marks).elim
      · rfl

end

/-- An identifier is a declaration, written to or the name of a property exactly where a site marks
    it so, and read exactly where none marks it. The names of properties stay what they are. -/
theorem role_lower (source : String) {root : ParseNode} (program : root.kind = "program")
    (wf : root.WellFormed) (lists : root.ParameterLists) (distinct : root.FieldsDistinct)
    {i : Nat} {e : Element} (found : (lower source root).tree.element? i = some e) :
    (e.kind ∈ ["identifier", "shorthand_property_identifier",
        "shorthand_property_identifier_pattern"] → ∀ role, e.role? = some role ↔
      root.Marks i role ∨ role = .read ∧ ∀ other, ¬root.Marks i other) ∧
    (e.kind ∈ ["property_identifier", "private_property_identifier"] →
      e.role? = some .property) := by
  obtain ⟨X, hX, rfl⟩ := exists_site_lower (ElementTree.lt_size_of_element found)
  have role_iff {start : Role} (initial : initialRole? e.kind = some start) :=
    role?_iff_of_found program wf lists distinct hX found initial
  constructor
  · intro identifier
    apply role_iff
    simp only [List.mem_cons, List.not_mem_nil, or_false] at identifier
    rcases identifier with same | same | same <;> rw [same] <;> rfl
  · intro property
    have initial : initialRole? e.kind = some .property := by
      simp only [List.mem_cons, List.not_mem_nil, or_false] at property
      rcases property with same | same <;> rw [same] <;> rfl
    apply (role_iff initial .property).mpr
    by_cases marked : ∃ given, root.Marks X.index given
    · obtain ⟨given, S, hS, Y, number, marks⟩ := marked
      obtain rfl := Site.eq_of_index (Site.mem_trans hS marks.mem_sites) hX number
      -- patterns bind no name of this kind
      have unbound (P : Site) (names : P.Names Y) : False := by
        have name := names.kind_mem
        rw [← kind_of_found hX found] at name
        simp only [List.mem_cons, List.not_mem_nil, or_false] at name property
        rcases name with same | same <;> simp [same] at property
      cases marks with
      | declaration _ names => exact (unbound _ names).elim
      | write _ names => exact (unbound _ names).elim
      | property renames => exact .inl ⟨S, hS, Y, rfl, .property renames⟩
    · exact .inr ⟨rfl, fun given marks => marked ⟨given, marks⟩⟩

theorem role_lower_identityArrow :
    let root := ParseNode.identityArrow
    let tree := (lower "(x) => x" root).tree
    root.kind = "program" ∧ root.WellFormed ∧ root.ParameterLists ∧ root.FieldsDistinct ∧
      (tree.element? 4).map (fun e => (e.kind, e.role?)) =
        some ("identifier", some .declaration) ∧
      (tree.element? 5).map (fun e => (e.kind, e.role?)) = some ("identifier", some .read) ∧
      root.Marks 4 .declaration ∧ ∀ role, ¬root.Marks 5 role := by
  intro root tree
  have program : root.kind = "program" := rfl
  have wf : root.WellFormed := ParseNode.identityArrow_wellFormed
  have lists : root.ParameterLists := ParseNode.identityArrow_parameterLists
  have distinct : root.FieldsDistinct := ParseNode.identityArrow_fieldsDistinct
  have parameter : (tree.element? 4).map (fun e => (e.kind, e.role?)) =
      some ("identifier", some .declaration) := by
    unfold tree
    rw [lower_eq_lowerTree]
    decide +kernel
  have body : (tree.element? 5).map (fun e => (e.kind, e.role?)) =
      some ("identifier", some .read) := by
    unfold tree
    rw [lower_eq_lowerTree]
    decide +kernel
  refine ⟨program, wf, lists, distinct, parameter, body, ?_, ?_⟩
  · obtain ⟨e, found, roles⟩ := Option.map_eq_some_iff.mp parameter
    obtain ⟨kind, role⟩ := Prod.mk.inj roles
    have role_iff := (role_lower "(x) => x" program wf lists distinct found).1 (by simp [kind])
    rcases (role_iff .declaration).mp role with marks | ⟨read, _⟩
    · exact marks
    · cases read
  · obtain ⟨e, found, roles⟩ := Option.map_eq_some_iff.mp body
    obtain ⟨kind, role⟩ := Prod.mk.inj roles
    have role_iff := (role_lower "(x) => x" program wf lists distinct found).1 (by simp [kind])
    rcases (role_iff .read).mp role with ⟨_, _, _, _, marks⟩ | ⟨_, unmarked⟩
    · cases marks
    · exact unmarked

end Lowering
end CrossReference
