import CrossReference.Parse.Node
import CrossReference.Scope

set_option autoImplicit false

/-!
# Constructs

The constructs of JavaScript that open a scope, bind a name or have a shape of their own, told by
the kind of their node.
-/
namespace CrossReference

inductive Construct
  /-- A function or generator that declares its name around itself. -/
  | functionDeclaration
  /-- A function or generator that declares its name inside itself. -/
  | functionExpression
  /-- An arrow function or a method, which declares no name of its own. -/
  | namelessFunction
  | classDeclaration
  | classExpression
  | block
  | forLoop
  | forInLoop
  | catchClause
  | switchBody
  | call
  | declarator
  | returnStatement
  | importSpecifier
  | namespaceImport
  | importClause
  | exportSpecifier
  | assignment
  | other
deriving DecidableEq, Repr

namespace Construct

def ofKind : String → Construct
  | "function_declaration" | "generator_function_declaration" => functionDeclaration
  | "function_expression" | "generator_function" => functionExpression
  | "arrow_function" | "method_definition" => namelessFunction
  | "class_declaration" => classDeclaration
  | "class" => classExpression
  | "statement_block" => block
  | "for_statement" => forLoop
  | "for_in_statement" => forInLoop
  | "catch_clause" => catchClause
  | "switch_body" => switchBody
  | "call_expression" => call
  | "variable_declarator" => declarator
  | "return_statement" => returnStatement
  | "import_specifier" => importSpecifier
  | "namespace_import" => namespaceImport
  | "import_clause" => importClause
  | "export_specifier" => exportSpecifier
  | "assignment_expression" | "augmented_assignment_expression" => assignment
  | _ => other

def isFunction : Construct → Bool
  | functionDeclaration | functionExpression | namelessFunction => true
  | _ => false

/-- The kind of scope that a construct opens, if any. The body of a function is part of the scope
    of the function, so a block opens one only where its parent is no function. -/
def scope? (parentKind : String) : Construct → Option ScopeKind
  | functionDeclaration | functionExpression | namelessFunction => some .function
  | classDeclaration | classExpression => some .classBody
  | block => if (ofKind parentKind).isFunction then none else some .block
  | forLoop | forInLoop | catchClause | switchBody => some .block
  | _ => none

end Construct

def initialRole? : String → Option Role
  | "identifier" | "shorthand_property_identifier" | "shorthand_property_identifier_pattern" =>
    some .read
  | "property_identifier" | "private_property_identifier" => some .property
  | _ => none

/-- How a pattern passes a binding on: it is a name itself, or it binds through some children. -/
inductive PatternForm
  | name
  | firstChild
  | lastChild
  | allChildren
  | nothing
deriving DecidableEq, Repr

def PatternForm.ofKind : String → PatternForm
  | "identifier" | "shorthand_property_identifier_pattern" => name
  | "assignment_pattern" | "object_assignment_pattern" => firstChild
  | "pair_pattern" => lastChild
  | "object_pattern" | "array_pattern" | "rest_pattern" => allChildren
  | _ => nothing

end CrossReference
