import CrossReference.Graph.Build
import CrossReference.Proofs.Lowering.Resolution
import CrossReference.Proofs.Lowering.Roles

set_option autoImplicit false

/-!
# Targets in parentheses

An assignment, and the head of a loop without a keyword, write to the names of their target, but
only where the target stands without parentheses. What stands in parentheses is no part of a
pattern, so nothing marks the names in it: they stay as they begin and are read. A callee, in
contrast, is taken out of its parentheses first.
-/
namespace CrossReference

namespace ParseNode

theorem unwrapFirst_eq (list : List ParseNode) :
    unwrapFirst list = (list.filter isElement).head?.map unwrapParens := by
  induction list with
  | nil => rfl
  | cons n rest ih =>
    rw [unwrapFirst, List.filter_cons]
    split
    · rfl
    · exact ih

theorem unwrapParens_eq (n : ParseNode) : n.unwrapParens =
    if n.kind = "parenthesized_expression" then
      (n.elementChildren.head?.map unwrapParens).getD n
    else n := by
  cases n with
  | mk head fields children =>
    rw [unwrapParens, unwrapFirst_eq]
    rfl

end ParseNode

namespace Site

variable {root : ParseNode} {S T P R X : Site} {role : Role}

theorem Writes.mem_sites (h : S.Writes T) : T ∈ S.sites := mem_sites_of_mem_children h.mem_children

/-- The role of the names of a target, which is the same for all of them. -/
def targetRole (T : Site) : Role :=
  if T.node.kind = "parenthesized_expression" then .read else .write

/-- A site without its parentheses is a site again: the same one, or a child of the innermost
    parentheses. -/
theorem exists_unwrapped (T : Site) : ∃ P ∈ T.sites, P.node = T.node.unwrapParens ∧
    (P = T ∨ T.node.kind = "parenthesized_expression" ∧
      ∃ R ∈ T.sites, R.node.kind = "parenthesized_expression" ∧ P ∈ R.children) := by
  induction T using children_induction with
  | step T ih =>
    rw [ParseNode.unwrapParens_eq, ← map_node_children]
    split
    · next parens =>
      cases first : T.children.head? with
      | none =>
        rw [List.head?_map, first]
        exact ⟨T, T.mem_sites_self, rfl, .inl rfl⟩
      | some C =>
        rw [List.head?_map, first]
        have child := List.mem_of_head? first
        have below := mem_sites_of_mem_children child
        obtain ⟨P, inside, node, same | ⟨_, R, hR, around, last⟩⟩ := ih C child
        · subst same
          exact ⟨P, below, node, .inr ⟨parens, T, T.mem_sites_self, parens, child⟩⟩
        · exact ⟨P, mem_trans below inside, node,
            .inr ⟨parens, R, mem_trans below hR, around, last⟩⟩
    · exact ⟨T, T.mem_sites_self, rfl, .inl rfl⟩

theorem not_marks_of_parens (wf : root.WellFormed) (lists : root.ParameterLists)
    (hR : R ∈ root.allSites) (parens : R.node.kind = "parenthesized_expression")
    (child : P ∈ R.children) (names : P.Names X) (hS : S ∈ root.allSites) : ¬S.Marks X role := by
  intro marks
  obtain ⟨Q, P', hosts, child', leads⟩ := marks.hosted
  have other : PatternForm.ofKind R.node.kind = .nothing := by
    rw [parens]
    rfl
  obtain rfl : Q = R := Leads.parent_eq leads (.inl names) child' child
    (mem_trans hS hosts.mem_sites) hR (hosts.form_eq wf lists hS marks.construct_ne) other
  cases hosts with
  | itself =>
    apply marks.construct_ne
    rw [parens]
    rfl
  | parameters _ list =>
    have formal := lists S.node (node_mem_nodes hS) _ (node_field? wf hS list)
    rw [parens] at formal
    exact absurd formal (by decide)

theorem Names.not_parens (h : P.Names X) : P.node.kind ≠ "parenthesized_expression" := by
  intro parens
  cases h with
  | name kind | part kind | withDefault kind | pair kind => simp [parens] at kind

end Site

theorem GraphInput.visit?_identifier {b : GraphInput} (g : Graph) {i : Nat} {e : Element}
    {name : String} {role : Role} (found : b.tree.element? i = some e)
    (shape : e.shape = .identifier name role) :
    b.visit? g i = if role = .read then b.addReference? g i name else some g := by
  rw [visit?, found, Option.bind_eq_bind, Option.bind_some, shape]
  cases role <;> rfl

namespace Lowering

section
variable {source : String} {root : ParseNode} {S T P X : Site}

theorem role?_of_writes (source : String) (program : root.kind = "program") (wf : root.WellFormed)
    (lists : root.ParameterLists) (distinct : root.FieldsDistinct) (hS : S ∈ root.allSites)
    (writes : S.Writes T)
    (unwrapped : P = T ∨ T.node.kind = "parenthesized_expression" ∧
      ∃ R ∈ T.sites, R.node.kind = "parenthesized_expression" ∧ P ∈ R.children)
    (hP : P ∈ T.sites) (names : P.Names X) :
    (lower source root).tree.role? X.index = some T.targetRole := by
  have hT : T ∈ root.allSites := Site.mem_trans hS writes.mem_sites
  have hX : X ∈ root.allSites := Site.mem_trans hT (Site.mem_trans hP names.mem_sites)
  obtain ⟨e, found, _⟩ := element_lower source hX
  have initial : initialRole? e.kind = some .read := by
    rw [kind_of_found hX found]
    have name := names.kind_mem
    simp only [List.mem_cons, List.not_mem_nil, or_false] at name
    rcases name with same | same <;> rw [same] <;> rfl
  rw [ElementTree.role?_eq found, role?_iff_of_found program wf lists distinct hX found initial,
    Site.targetRole]
  rcases unwrapped with rfl | ⟨parens, R, hR, around, child⟩
  · rw [if_neg names.not_parens]
    exact .inl ⟨S, hS, X, rfl, .write writes names⟩
  · rw [if_pos parens]
    refine .inr ⟨rfl, ?_⟩
    rintro other ⟨S', hS', Y, number, marks⟩
    obtain rfl := Site.eq_of_index (Site.mem_trans hS' marks.mem_sites) hX number
    exact Site.not_marks_of_parens wf lists (Site.mem_trans hT hR) around child names hS' marks

end

/-- The names of a target are written to, and draw nothing, where the target stands without
    parentheses. In parentheses they are read, and drawn as references. -/
theorem role_lower_target (source : String) {root : ParseNode} (program : root.kind = "program")
    (wf : root.WellFormed) (lists : root.ParameterLists) (distinct : root.FieldsDistinct)
    {S T : Site} (hS : S ∈ root.allSites) (writes : S.Writes T) :
    ∃ P ∈ T.sites, P.node = T.node.unwrapParens ∧ ∀ X, P.Names X →
      (lower source root).tree.role? X.index = some T.targetRole ∧
      ∀ (b : GraphInput) (g : Graph), b.tree = (lower source root).tree →
        b.visit? g X.index =
          if T.targetRole = .read then b.addReference? g X.index (X.text source) else some g := by
  obtain ⟨P, hP, node, unwrapped⟩ := T.exists_unwrapped
  refine ⟨P, hP, node, fun X names => ?_⟩
  have given := role?_of_writes source program wf lists distinct hS writes unwrapped hP names
  refine ⟨given, fun b g lowered => ?_⟩
  have hT : T ∈ root.allSites := Site.mem_trans hS writes.mem_sites
  obtain ⟨e, found, shape⟩ :=
    shape_of_role? (Site.mem_trans hT (Site.mem_trans hP names.mem_sites)) given
  exact GraphInput.visit?_identifier g (lowered ▸ found) shape

def assignedSource : String := "(a) = 1; var a"

def parenthesisedTarget : ParseNode :=
  let head (number : Nat) (kind : String) (start stop : UInt64) (isNamed : Bool) : NodeHead :=
    ⟨number, kind, ⟨start, stop⟩, isNamed, false, false, false, false⟩
  let token (number : Nat) (kind : String) (start stop : UInt64) : ParseNode :=
    .mk (head number kind start stop false) [] []
  let leaf (number : Nat) (kind : String) (start stop : UInt64) : ParseNode :=
    .mk (head number kind start stop true) [] []
  let target : ParseNode := .mk (head 3 "parenthesized_expression" 0 3 true) []
    [token 4 "(" 0 1, leaf 5 "identifier" 1 2, token 6 ")" 2 3]
  let assignment : ParseNode := .mk (head 2 "assignment_expression" 0 7 true) [(.left, target)]
    [target, token 7 "=" 4 5, leaf 8 "number" 6 7]
  let statement : ParseNode := .mk (head 1 "expression_statement" 0 8 true) []
    [assignment, token 9 ";" 7 8]
  let name := leaf 13 "identifier" 13 14
  let declarator : ParseNode :=
    .mk (head 12 "variable_declarator" 13 14 true) [(.name, name)] [name]
  let declaration : ParseNode := .mk (head 10 "variable_declaration" 9 14 true) []
    [token 11 "var" 9 12, declarator]
  .mk (head 0 "program" 0 14 true) [] [statement, declaration]

theorem parenthesisedTarget_wellFormed : parenthesisedTarget.WellFormed := by
  constructor
  · decide
  · simp [parenthesisedTarget, ParseNode.nodes, ParseNode.nodesIn, ParseNode.fields,
      ParseNode.children]

theorem parenthesisedTarget_parameterLists : parenthesisedTarget.ParameterLists := by
  simp [ParseNode.ParameterLists, parenthesisedTarget, ParseNode.nodes, ParseNode.nodesIn,
    ParseNode.field?, ParseNode.fields]

theorem parenthesisedTarget_fieldsDistinct : parenthesisedTarget.FieldsDistinct := by
  simp [ParseNode.FieldsDistinct, parenthesisedTarget, ParseNode.nodes, ParseNode.nodesIn,
    ParseNode.field?, ParseNode.fields]

theorem writes_parenthesisedTarget :
    parenthesisedTarget.allSites[2].Writes parenthesisedTarget.allSites[3] :=
  .assignment (by decide) rfl

theorem sites_parenthesisedTarget : parenthesisedTarget.allSites[3].sites =
    [parenthesisedTarget.allSites[3], parenthesisedTarget.allSites[4]] := rfl

theorem role_lower_target_inParens :
    parenthesisedTarget.kind = "program" ∧ parenthesisedTarget.WellFormed ∧
      parenthesisedTarget.ParameterLists ∧ parenthesisedTarget.FieldsDistinct ∧
      parenthesisedTarget.allSites[2].Writes parenthesisedTarget.allSites[3] ∧
      (lower assignedSource parenthesisedTarget).tree.role? 4 = some .read := by
  refine ⟨rfl, parenthesisedTarget_wellFormed, parenthesisedTarget_parameterLists,
    parenthesisedTarget_fieldsDistinct, writes_parenthesisedTarget, ?_⟩
  obtain ⟨P, hP, node, roles⟩ := role_lower_target assignedSource rfl parenthesisedTarget_wellFormed
    parenthesisedTarget_parameterLists parenthesisedTarget_fieldsDistinct (List.getElem_mem _)
    writes_parenthesisedTarget
  have name : P.node.kind = "identifier" := by
    rw [node]
    rfl
  have given := (roles P (.name (by simp [name]))).1
  rw [sites_parenthesisedTarget] at hP
  rcases List.mem_cons.mp hP with rfl | inner
  · exact absurd name (by decide)
  · rw [List.mem_singleton.mp inner] at given
    exact given

/-- What is assigned to is a name in parentheses. It is read, and an edge is drawn from it. -/
theorem target_read_in_parens : parenthesisedTarget.WellFormed ∧
    ∃ S ∈ parenthesisedTarget.allSites, ∃ T, S.Writes T ∧ T.node.unwrapParens.kind = "identifier" ∧
      ∃ X ∈ T.sites, X.node = T.node.unwrapParens ∧
        (lower assignedSource parenthesisedTarget).tree.role? X.index ≠ some .write ∧
        ∃ g, GraphInput.build? ⟨(lower assignedSource parenthesisedTarget).tree,
            (lower assignedSource parenthesisedTarget).scopes.resolve?, none, {}⟩ = some g ∧
          g.edges.toList.map (fun e => (some e.source, e.relation)) =
            [((lower assignedSource parenthesisedTarget).tree.id? X.index, .reference)] := by
  refine ⟨parenthesisedTarget_wellFormed, _, List.getElem_mem _, _, writes_parenthesisedTarget, rfl,
    parenthesisedTarget.allSites[4], ?_, rfl, ?_, ?_⟩
  · rw [sites_parenthesisedTarget]
    exact List.mem_cons_of_mem _ List.mem_cons_self
  · rw [lower_eq_lowerTree]
    decide +kernel
  · apply Option.map_eq_some_iff.mp
    rw [lower_eq_lowerTree]
    decide +kernel

end Lowering
end CrossReference
