import CrossReference.Proofs.Lowering.Fields
import CrossReference.Proofs.Lowering.Pattern

set_option autoImplicit false

/-!
# Binders

Which sites declare names, with which pattern, in which scope, and as which element. The rules are
spelt out by kind in `Site.Declares`; `Site.binders` lists what they give in the order in which
lowering declares it.
-/
namespace CrossReference

def Slot.varScope (slot : Slot) : ScopeId :=
  ((slot.around.find? fun scope => scope.2.holdsVar).map Prod.fst).getD ScopeTree.root

structure Binder where
  scope : ScopeId
  pattern : Site
  /-- The number of the element that the names refer to. -/
  declaring : Nat

namespace Site

/-- The binders of a site. A site that opens a scope opens the one numbered `nextScope`. -/
inductive Declares (S : Site) : Binder → Prop
  | parameter {P : Site} (kind : S.node.kind ∈ functionKinds) (part : P ∈ S.parameters) :
      Declares S ⟨S.nextScope, P, P.index⟩
  | functionExpression {P : Site}
      (kind : S.node.kind ∈ ["function_expression", "generator_function"])
      (name : S.field? .name = some P) : Declares S ⟨S.nextScope, P, S.index⟩
  | classExpression {P : Site} (kind : S.node.kind = "class") (name : S.field? .name = some P) :
      Declares S ⟨S.nextScope, P, S.index⟩
  | caught {P : Site} (kind : S.node.kind = "catch_clause")
      (parameter : S.field? .parameter = some P) : Declares S ⟨S.nextScope, P, P.index⟩
  | loopHead {P : Site} {keyword : ParseNode} (kind : S.node.kind = "for_in_statement")
      (left : S.field? .left = some P) (word : S.node.field? .kind = some keyword)
      (block : keyword.kind ≠ "var") : Declares S ⟨S.nextScope, P, P.index⟩
  | varLoopHead {P : Site} {keyword : ParseNode} (kind : S.node.kind = "for_in_statement")
      (left : S.field? .left = some P) (word : S.node.field? .kind = some keyword)
      (var : keyword.kind = "var") : Declares S ⟨S.varScope, P, P.index⟩
  | functionDeclaration {P : Site}
      (kind : S.node.kind ∈ ["function_declaration", "generator_function_declaration"])
      (name : S.field? .name = some P) : Declares S ⟨S.varScope, P, S.index⟩
  | classDeclaration {P : Site} (kind : S.node.kind = "class_declaration")
      (name : S.field? .name = some P) : Declares S ⟨S.scope, P, S.index⟩
  | declarator {P : Site} (kind : S.node.kind = "variable_declarator")
      (target : S.field? .name = some P)
      (block : S.parent.map Prod.snd ≠ some "variable_declaration") :
      Declares S ⟨S.scope, P, S.index⟩
  | varDeclarator {P : Site} (kind : S.node.kind = "variable_declarator")
      (target : S.field? .name = some P)
      (var : S.parent.map Prod.snd = some "variable_declaration") :
      Declares S ⟨S.varScope, P, S.index⟩
  /-- An import is named by its alias, or else by its own name. -/
  | importSpecifier {P : Site} (kind : S.node.kind = "import_specifier")
      (name : (S.field? .alias).or (S.field? .name) = some P) :
      Declares S ⟨ScopeTree.root, P, S.index⟩
  | namespaceImport {P : Site} (kind : S.node.kind = "namespace_import") (part : P ∈ S.children) :
      Declares S ⟨ScopeTree.root, P, S.index⟩
  | defaultImport {P : Site} (kind : S.node.kind = "import_clause") (part : P ∈ S.children)
      (name : P.node.kind = "identifier") : Declares S ⟨ScopeTree.root, P, P.index⟩

def parameterBinders (S : Site) : List Binder :=
  S.parameters.map fun P => ⟨S.nextScope, P, P.index⟩

def innerBinders (S : Site) : List Binder :=
  match Construct.ofKind S.node.kind with
  | .functionDeclaration | .namelessFunction => S.parameterBinders
  | .functionExpression =>
    S.parameterBinders ++ (S.field? .name).toList.map fun P => ⟨S.nextScope, P, S.index⟩
  | .classExpression => (S.field? .name).toList.map fun P => ⟨S.nextScope, P, S.index⟩
  | .catchClause => (S.field? .parameter).toList.map fun P => ⟨S.nextScope, P, P.index⟩
  | .forInLoop =>
    match S.node.field? .kind with
    | some keyword =>
      let scope := if keyword.kind = "var" then S.varScope else S.nextScope
      (S.field? .left).toList.map fun P => ⟨scope, P, P.index⟩
    | none => []
  | _ => []

def outerBinders (S : Site) : List Binder :=
  match Construct.ofKind S.node.kind with
  | .functionDeclaration => (S.field? .name).toList.map fun P => ⟨S.varScope, P, S.index⟩
  | .classDeclaration => (S.field? .name).toList.map fun P => ⟨S.scope, P, S.index⟩
  | .declarator =>
    let scope := if S.parent.map Prod.snd = some "variable_declaration" then S.varScope else S.scope
    (S.field? .name).toList.map fun P => ⟨scope, P, S.index⟩
  | .importSpecifier =>
    ((S.field? .alias).or (S.field? .name)).toList.map fun P => ⟨ScopeTree.root, P, S.index⟩
  | .namespaceImport => S.children.map fun P => ⟨ScopeTree.root, P, S.index⟩
  | .importClause =>
    (S.children.filter fun P => P.node.kind = "identifier").map fun P =>
      ⟨ScopeTree.root, P, P.index⟩
  | _ => []

def binders (S : Site) : List Binder := S.innerBinders ++ S.outerBinders

variable {S : Site} {b : Binder}

theorem of_declares (h : S.Declares b) : b ∈ S.binders := by
  have known {c : Construct} (kind : S.node.kind ∈ c.kinds) : Construct.ofKind S.node.kind = c :=
    Construct.ofKind_of_mem kind
  rw [binders, innerBinders, outerBinders]
  cases h with
  | @parameter P kind part =>
    have here : (⟨S.nextScope, P, P.index⟩ : Binder) ∈ S.parameterBinders :=
      List.mem_map.mpr ⟨P, part, rfl⟩
    rcases (Construct.mem_functionKinds_iff _).mp kind with kind | kind | kind
    all_goals rw [known kind]; simp [here]
  | functionExpression kind name =>
    rw [@known .functionExpression kind]
    simp [name]
  | classExpression kind name =>
    rw [@known .classExpression (List.mem_singleton.mpr kind)]
    simp [name]
  | caught kind parameter =>
    rw [@known .catchClause (List.mem_singleton.mpr kind)]
    simp [parameter]
  | loopHead kind left word block =>
    rw [@known .forInLoop (List.mem_singleton.mpr kind)]
    simp [left, word, block]
  | varLoopHead kind left word var =>
    rw [@known .forInLoop (List.mem_singleton.mpr kind)]
    simp [left, word, var]
  | functionDeclaration kind name =>
    rw [@known .functionDeclaration kind]
    simp [name]
  | classDeclaration kind name =>
    rw [@known .classDeclaration (List.mem_singleton.mpr kind)]
    simp [name]
  | declarator kind target block =>
    rw [@known .declarator (List.mem_singleton.mpr kind), if_neg block]
    simp [target]
  | varDeclarator kind target var =>
    rw [@known .declarator (List.mem_singleton.mpr kind), if_pos var]
    simp [target]
  | importSpecifier kind name =>
    rw [@known .importSpecifier (List.mem_singleton.mpr kind), name]
    simp
  | namespaceImport kind part =>
    rw [@known .namespaceImport (List.mem_singleton.mpr kind)]
    simp [part]
  | defaultImport kind part name =>
    rw [@known .importClause (List.mem_singleton.mpr kind)]
    simp [part, name]

theorem declares_of_mem_parameterBinders (kind : S.node.kind ∈ functionKinds)
    (h : b ∈ S.parameterBinders) : S.Declares b := by
  obtain ⟨P, part, rfl⟩ := List.mem_map.mp h
  exact .parameter kind part

theorem declares_of_mem_innerBinders (h : b ∈ S.innerBinders) : S.Declares b := by
  rw [innerBinders] at h
  split at h
  case h_1 construct =>
    have kind := Construct.mem_kinds_of_eq construct (by decide)
    exact declares_of_mem_parameterBinders
      ((Construct.mem_functionKinds_iff _).mpr (.inl kind)) h
  case h_2 construct =>
    have kind := Construct.mem_kinds_of_eq construct (by decide)
    exact declares_of_mem_parameterBinders
      ((Construct.mem_functionKinds_iff _).mpr (.inr (.inr kind))) h
  case h_3 construct =>
    have kind := Construct.mem_kinds_of_eq construct (by decide)
    rcases List.mem_append.mp h with parameter | own
    · exact declares_of_mem_parameterBinders
        ((Construct.mem_functionKinds_iff _).mpr (.inr (.inl kind))) parameter
    · obtain ⟨P, name, rfl⟩ := List.mem_map.mp own
      exact .functionExpression kind (Option.mem_toList.mp name)
  case h_4 construct =>
    obtain ⟨P, name, rfl⟩ := List.mem_map.mp h
    exact .classExpression (List.mem_singleton.mp (Construct.mem_kinds_of_eq construct (by decide)))
      (Option.mem_toList.mp name)
  case h_5 construct =>
    obtain ⟨P, parameter, rfl⟩ := List.mem_map.mp h
    exact .caught (List.mem_singleton.mp (Construct.mem_kinds_of_eq construct (by decide)))
      (Option.mem_toList.mp parameter)
  case h_6 construct =>
    have kind := List.mem_singleton.mp (Construct.mem_kinds_of_eq construct (by decide))
    split at h
    case h_1 keyword word =>
      obtain ⟨P, left, rfl⟩ := List.mem_map.mp h
      by_cases var : keyword.kind = "var"
      · rw [if_pos var]
        exact .varLoopHead kind (Option.mem_toList.mp left) word var
      · rw [if_neg var]
        exact .loopHead kind (Option.mem_toList.mp left) word var
    case h_2 => cases h
  case h_7 => cases h

theorem declares_of_mem_outerBinders (h : b ∈ S.outerBinders) : S.Declares b := by
  rw [outerBinders] at h
  split at h
  case h_1 construct =>
    obtain ⟨P, name, rfl⟩ := List.mem_map.mp h
    exact .functionDeclaration (Construct.mem_kinds_of_eq construct (by decide))
      (Option.mem_toList.mp name)
  case h_2 construct =>
    obtain ⟨P, name, rfl⟩ := List.mem_map.mp h
    have kind := List.mem_singleton.mp (Construct.mem_kinds_of_eq construct (by decide))
    exact .classDeclaration kind (Option.mem_toList.mp name)
  case h_3 construct =>
    have kind := List.mem_singleton.mp (Construct.mem_kinds_of_eq construct (by decide))
    obtain ⟨P, target, rfl⟩ := List.mem_map.mp h
    by_cases var : S.parent.map Prod.snd = some "variable_declaration"
    · rw [if_pos var]
      exact .varDeclarator kind (Option.mem_toList.mp target) var
    · rw [if_neg var]
      exact .declarator kind (Option.mem_toList.mp target) var
  case h_4 construct =>
    obtain ⟨P, name, rfl⟩ := List.mem_map.mp h
    exact .importSpecifier (List.mem_singleton.mp (Construct.mem_kinds_of_eq construct (by decide)))
      (Option.mem_toList.mp name)
  case h_5 construct =>
    obtain ⟨P, part, rfl⟩ := List.mem_map.mp h
    have kind := List.mem_singleton.mp (Construct.mem_kinds_of_eq construct (by decide))
    exact .namespaceImport kind part
  case h_6 construct =>
    obtain ⟨P, part, rfl⟩ := List.mem_map.mp h
    obtain ⟨child, name⟩ := List.mem_filter.mp part
    have kind := List.mem_singleton.mp (Construct.mem_kinds_of_eq construct (by decide))
    exact .defaultImport kind child (of_decide_eq_true name)
  case h_7 => cases h

theorem mem_binders_iff : b ∈ S.binders ↔ S.Declares b := by
  constructor
  · intro h
    rcases List.mem_append.mp h with inner | outer
    · exact declares_of_mem_innerBinders inner
    · exact declares_of_mem_outerBinders outer
  · exact of_declares

theorem Declares.construct_ne (h : S.Declares b) : Construct.ofKind S.node.kind ≠ .other := by
  intro other
  have binder := mem_binders_iff.mpr h
  simp [binders, innerBinders, outerBinders, other] at binder

end Site
end CrossReference
