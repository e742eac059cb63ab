import CrossReference.Parse.Node
import Mathlib.Data.List.Nodup

set_option autoImplicit false

/-!
# The nodes of a parse tree

All nodes of a tree in one list, and what a parser promises of the trees it hands over: nodes are
told apart by their numbers, and a field of a node is one of its children.
-/
namespace CrossReference.ParseNode

mutual
def nodes : ParseNode → List ParseNode
  | mk head fields children => mk head fields children :: nodesIn children

def nodesIn : List ParseNode → List ParseNode
  | [] => []
  | n :: rest => n.nodes ++ nodesIn rest
end

structure WellFormed (root : ParseNode) : Prop where
  numbers_nodup : (root.nodes.map number).Nodup
  field_mem : ∀ n ∈ root.nodes, ∀ part ∈ n.fields, part.2 ∈ n.children

/-- The grammar: the parameters of a function stand in a list of their own. -/
def ParameterLists (root : ParseNode) : Prop :=
  ∀ n ∈ root.nodes, ∀ c, n.field? .parameters = some c → c.kind = "formal_parameters"

def FieldsDistinct (root : ParseNode) : Prop :=
  ∀ n ∈ root.nodes, ∀ f g c, n.field? f = some c → n.field? g = some c → f = g

theorem nodes_eq (n : ParseNode) : n.nodes = n :: nodesIn n.children := by
  cases n; rw [nodes]; rfl

theorem mem_nodes_self (n : ParseNode) : n ∈ n.nodes := by
  rw [nodes_eq]
  exact List.mem_cons_self

theorem nodes_subset_nodesIn {n : ParseNode} {list : List ParseNode} (h : n ∈ list) :
    n.nodes ⊆ nodesIn list := by
  induction list with
  | nil => cases h
  | cons first rest ih =>
    rw [nodesIn]
    rcases List.mem_cons.mp h with same | inside
    · subst same
      exact List.subset_append_left _ _
    · exact List.Subset.trans (ih inside) (List.subset_append_right _ _)

mutual
theorem nodes_subset_of_mem : (root : ParseNode) → {n : ParseNode} → n ∈ root.nodes →
    n.nodes ⊆ root.nodes
  | mk head fields children, n, h => by
    rw [nodes] at h
    rcases List.mem_cons.mp h with same | inside
    · subst same
      exact List.Subset.refl _
    · rw [nodes]
      exact List.Subset.trans (nodesIn_subset_of_mem children inside) (List.subset_cons_self _ _)

theorem nodesIn_subset_of_mem : (list : List ParseNode) → {n : ParseNode} →
    n ∈ nodesIn list → n.nodes ⊆ nodesIn list
  | first :: rest, n, h => by
    rw [nodesIn] at h ⊢
    rcases List.mem_append.mp h with inFirst | inRest
    · exact List.Subset.trans (nodes_subset_of_mem first inFirst) (List.subset_append_left _ _)
    · exact List.Subset.trans (nodesIn_subset_of_mem rest inRest) (List.subset_append_right _ _)
end

theorem mem_nodes_of_mem_children {root n c : ParseNode} (hn : n ∈ root.nodes)
    (hc : c ∈ n.children) : c ∈ root.nodes := by
  apply nodes_subset_of_mem root hn
  rw [nodes_eq]
  exact List.mem_cons_of_mem _ (nodes_subset_nodesIn hc (mem_nodes_self c))

theorem WellFormed.field_mem_children {root n c : ParseNode} {f : Field} (wf : root.WellFormed)
    (hn : n ∈ root.nodes) (h : n.field? f = some c) : c ∈ n.children := by
  obtain ⟨part, found, rfl⟩ := Option.map_eq_some_iff.mp h
  exact wf.field_mem n hn part (List.mem_of_find?_eq_some found)

/-- The parse of `var x`. -/
def oneVariable : ParseNode :=
  let head (number : Nat) (kind : String) (start stop : UInt64) (isNamed : Bool) : NodeHead :=
    ⟨number, kind, ⟨start, stop⟩, isNamed, false, false, false, false⟩
  let name : ParseNode := .mk (head 4 "identifier" 4 5 true) [] []
  let declarator : ParseNode := .mk (head 3 "variable_declarator" 4 5 true) [(.name, name)] [name]
  let keyword : ParseNode := .mk (head 2 "var" 0 3 false) [] []
  let declaration : ParseNode :=
    .mk (head 1 "variable_declaration" 0 5 true) [] [keyword, declarator]
  .mk (head 0 "program" 0 5 true) [] [declaration]

theorem oneVariable_wellFormed : oneVariable.WellFormed := by
  constructor
  · decide
  · simp [oneVariable, nodes, nodesIn, fields, children]

/-- The parse of `(x) => x`. -/
def identityArrow : ParseNode :=
  let head (number : Nat) (kind : String) (start stop : UInt64) (isNamed : Bool) : NodeHead :=
    ⟨number, kind, ⟨start, stop⟩, isNamed, false, false, false, false⟩
  let token (number : Nat) (kind : String) (start stop : UInt64) : ParseNode :=
    .mk (head number kind start stop false) [] []
  let parameter : ParseNode := .mk (head 5 "identifier" 1 2 true) [] []
  let parameters : ParseNode :=
    .mk (head 3 "formal_parameters" 0 3 true) [] [token 4 "(" 0 1, parameter, token 6 ")" 2 3]
  let body : ParseNode := .mk (head 8 "identifier" 7 8 true) [] []
  let arrow : ParseNode :=
    .mk (head 2 "arrow_function" 0 8 true) [(.parameters, parameters), (.body, body)]
      [parameters, token 7 "=>" 4 6, body]
  .mk (head 0 "program" 0 8 true) []
    [.mk (head 1 "expression_statement" 0 8 true) [] [arrow]]

theorem identityArrow_wellFormed : identityArrow.WellFormed := by
  constructor
  · decide
  · simp [-Prod.forall, identityArrow, nodes, nodesIn, fields, children]

theorem identityArrow_parameterLists : identityArrow.ParameterLists := by
  simp [ParameterLists, identityArrow, nodes, nodesIn, field?, fields, kind, head]

theorem identityArrow_fieldsDistinct : identityArrow.FieldsDistinct := by
  simp [FieldsDistinct, identityArrow, nodes, nodesIn, field?, fields]
  rintro _ _ _ _ (⟨rfl, _, rfl⟩ | ⟨_, rfl, _, rfl⟩) _ (⟨same, _, _⟩ | ⟨_, same, _, _⟩) <;> simp_all

def functionAndCallSource : String := "function f(x) \x7b return x \x7d var x = f(x)"

/-- The parse of `function f(x) { return x } var x = f(x)`. -/
def functionAndCall : ParseNode :=
  let head (number : Nat) (kind : String) (start stop : UInt64) (isNamed : Bool) : NodeHead :=
    ⟨number, kind, ⟨start, stop⟩, isNamed, false, false, false, false⟩
  let token (number : Nat) (kind : String) (start stop : UInt64) : ParseNode :=
    .mk (head number kind start stop false) [] []
  let identifier (number : Nat) (start stop : UInt64) : ParseNode :=
    .mk (head number "identifier" start stop true) [] []
  let parameters : ParseNode := .mk (head 4 "formal_parameters" 10 13 true) []
    [token 5 "(" 10 11, identifier 6 11 12, token 7 ")" 12 13]
  let returned : ParseNode := .mk (head 10 "return_statement" 16 24 true) []
    [token 11 "return" 16 22, identifier 12 23 24]
  let body : ParseNode := .mk (head 8 "statement_block" 14 26 true) []
    [token 9 "\x7b" 14 15, returned, token 13 "\x7d" 25 26]
  let name : ParseNode := identifier 3 9 10
  let function : ParseNode := .mk (head 1 "function_declaration" 0 26 true)
    [(.name, name), (.parameters, parameters), (.body, body)]
    [token 2 "function" 0 8, name, parameters, body]
  let callee : ParseNode := identifier 20 35 36
  let arguments : ParseNode := .mk (head 21 "arguments" 36 39 true) []
    [token 22 "(" 36 37, identifier 23 37 38, token 24 ")" 38 39]
  let call : ParseNode := .mk (head 19 "call_expression" 35 39 true)
    [(.function, callee), (.arguments, arguments)] [callee, arguments]
  let target : ParseNode := identifier 17 31 32
  let declarator : ParseNode := .mk (head 16 "variable_declarator" 31 39 true)
    [(.name, target), (.value, call)] [target, token 18 "=" 33 34, call]
  let declaration : ParseNode := .mk (head 14 "variable_declaration" 27 39 true) []
    [token 15 "var" 27 30, declarator]
  .mk (head 0 "program" 0 39 true) [] [function, declaration]

theorem functionAndCall_wellFormed : functionAndCall.WellFormed := by
  constructor
  · decide
  · simp [-Prod.forall, functionAndCall, nodes, nodesIn, fields, children]

theorem functionAndCall_parameterLists : functionAndCall.ParameterLists := by
  simp [ParameterLists, functionAndCall, nodes, nodesIn, field?, fields, kind, head]

mutual
/-- The nodes of a tree that lowering passes over: those that are no elements, and all
    below them. -/
def skipped : ParseNode → List ParseNode
  | mk _ _ children => skippedIn children

def skippedIn : List ParseNode → List ParseNode
  | [] => []
  | n :: rest => (if n.isElement then n.skipped else n.nodes) ++ skippedIn rest
end

theorem skipped_eq (n : ParseNode) : n.skipped = skippedIn n.children := by
  cases n; rw [skipped]; rfl

end CrossReference.ParseNode
