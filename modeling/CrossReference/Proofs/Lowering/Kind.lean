import CrossReference.Lowering.Construct

set_option autoImplicit false

/-!
# Kinds of nodes, spelt out

The kinds of nodes that are functions, that open a scope and that make up each construct, as lists.
The main statements tie the lists to `Construct.ofKind`.
-/
namespace CrossReference

def functionKinds : List String :=
  ["function_declaration", "generator_function_declaration", "function_expression",
    "generator_function", "arrow_function", "method_definition"]

def openedScope? (kind parentKind : String) : Option ScopeKind :=
  if kind ∈ functionKinds then some .function
  else if kind ∈ ["class", "class_declaration"] then some .classBody
  else if kind = "statement_block" ∧ parentKind ∉ functionKinds then some .block
  else if kind ∈ ["for_statement", "for_in_statement", "catch_clause", "switch_body"] then
    some .block
  else none

namespace Construct

def kinds : Construct → List String
  | functionDeclaration => ["function_declaration", "generator_function_declaration"]
  | functionExpression => ["function_expression", "generator_function"]
  | namelessFunction => ["arrow_function", "method_definition"]
  | classDeclaration => ["class_declaration"]
  | classExpression => ["class"]
  | block => ["statement_block"]
  | forLoop => ["for_statement"]
  | forInLoop => ["for_in_statement"]
  | catchClause => ["catch_clause"]
  | switchBody => ["switch_body"]
  | call => ["call_expression"]
  | declarator => ["variable_declarator"]
  | returnStatement => ["return_statement"]
  | importSpecifier => ["import_specifier"]
  | namespaceImport => ["namespace_import"]
  | importClause => ["import_clause"]
  | exportSpecifier => ["export_specifier"]
  | assignment => ["assignment_expression", "augmented_assignment_expression"]
  | other => []

theorem mem_kinds_ofKind (kind : String) : ofKind kind = other ∨ kind ∈ (ofKind kind).kinds := by
  unfold ofKind
  split
  all_goals first | exact .inl rfl | exact .inr (by decide)

theorem ofKind_of_mem {kind : String} {c : Construct} (h : kind ∈ c.kinds) : ofKind kind = c := by
  cases c
  all_goals simp only [kinds, List.mem_cons, List.not_mem_nil, or_false] at h
  all_goals rcases h with rfl | rfl <;> rfl

theorem mem_kinds_of_eq {kind : String} {c : Construct} (eq : ofKind kind = c) (known : c ≠ other) :
    kind ∈ c.kinds := by
  subst eq
  exact (mem_kinds_ofKind kind).resolve_left known

theorem ofKind_eq_iff {kind : String} {c : Construct} (known : c ≠ other) :
    ofKind kind = c ↔ kind ∈ c.kinds :=
  ⟨fun eq => mem_kinds_of_eq eq known, ofKind_of_mem⟩

theorem mem_functionKinds_iff (kind : String) : kind ∈ functionKinds ↔
    kind ∈ functionDeclaration.kinds ∨ kind ∈ functionExpression.kinds ∨
      kind ∈ namelessFunction.kinds := by
  simp [functionKinds, kinds, or_assoc]

theorem isFunction_ofKind (kind : String) :
    (ofKind kind).isFunction = true ↔ kind ∈ functionKinds := by
  rw [mem_functionKinds_iff, ← ofKind_eq_iff (by decide), ← ofKind_eq_iff (by decide),
    ← ofKind_eq_iff (by decide)]
  cases ofKind kind <;> decide

theorem openedScope?_of_other {kind : String} (h : ofKind kind = other) (parentKind : String) :
    openedScope? kind parentKind = none := by
  have absent (c : Construct) (hc : c ≠ other) : kind ∉ c.kinds := by
    intro inside
    exact hc ((ofKind_of_mem inside).symm.trans h)
  have noFunction : kind ∉ functionKinds := by
    rw [mem_functionKinds_iff]
    simp [absent functionDeclaration, absent functionExpression, absent namelessFunction]
  have noClass := absent classExpression
  have noClassDeclaration := absent classDeclaration
  have noBlock := absent block
  have noLoop := absent forLoop
  have noForIn := absent forInLoop
  have noCatch := absent catchClause
  have noSwitch := absent switchBody
  simp [kinds] at noClass noClassDeclaration noBlock noLoop noForIn noCatch noSwitch
  simp [openedScope?, noFunction, noClass, noClassDeclaration, noBlock, noLoop, noForIn, noCatch,
    noSwitch]

theorem openedScope?_statement_block (parentKind : String) :
    openedScope? "statement_block" parentKind =
      if parentKind ∈ functionKinds then none else some .block := by
  have noFunction : "statement_block" ∉ functionKinds := by decide
  by_cases body : parentKind ∈ functionKinds <;> simp [openedScope?, noFunction, body]

theorem scope?_ofKind (kind parentKind : String) :
    (ofKind kind).scope? parentKind = openedScope? kind parentKind := by
  rcases mem_kinds_ofKind kind with rest | inside
  · rw [rest, openedScope?_of_other rest]
    rfl
  · generalize ofKind kind = c at inside
    cases c
    case block =>
      obtain rfl : kind = "statement_block" := by simpa [kinds] using inside
      rw [openedScope?_statement_block]
      exact ite_congr (propext (isFunction_ofKind parentKind)) (fun _ => rfl) (fun _ => rfl)
    all_goals simp only [kinds, List.mem_cons, List.not_mem_nil, or_false] at inside
    all_goals rcases inside with rfl | rfl
    all_goals simp [scope?, openedScope?, functionKinds]

end Construct
end CrossReference
