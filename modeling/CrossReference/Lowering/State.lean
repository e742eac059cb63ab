import CrossReference.Lowering.Pattern
import CrossReference.Text.Slice

set_option autoImplicit false

/-!
# Lowering, node by node

Lowering turns a parse tree into elements and scopes. A node is entered before the nodes below it
and left after them. On entry it becomes an element in the current scope and may open a scope; on
leaving it gets its shape, its names are declared, first those that belong to its own scope, then
those that belong around it, and its scope is closed in between.
-/
namespace CrossReference

structure Lowering where
  tree : ElementTree
  scopes : ScopeTree
  openScopes : List ScopeId
  elements : Std.TreeMap Nat ElementIndex

namespace Lowering

/-- The root is an element of its own scope; no rule applies to it. -/
def start (root : ParseNode) : Lowering :=
  { tree := ElementTree.new root.kind (some root.span)
    scopes := ScopeTree.new.assign ElementTree.root ScopeTree.root
    openScopes := [ScopeTree.root]
    elements := (∅ : Std.TreeMap Nat ElementIndex).insert root.number ElementTree.root }

def currentScope (s : Lowering) : ScopeId := s.openScopes.head?.getD ScopeTree.root

def elementOf? (s : Lowering) (n : ParseNode) : Option ElementIndex := s.elements[n.number]?

def fieldOf? (s : Lowering) (n : ParseNode) (f : Field) : Option ElementIndex :=
  (n.field? f).bind s.elementOf?

def childElements (s : Lowering) (n : ParseNode) : List ElementIndex :=
  n.elementChildren.filterMap s.elementOf?

def leafShape (source : String) (n : ParseNode) : Shape :=
  match initialRole? n.kind with
  | some role =>
    .identifier ((Text.slice? source n.span.start.toNat n.span.stop.toNat).getD "") role
  | none => .other

def parameters (s : Lowering) (n : ParseNode) : List ElementIndex :=
  match n.field? .parameters with
  | some list => s.childElements list
  | none => (s.fieldOf? n .parameter).toList

/-- The arguments of a call. A tagged template has none. -/
def arguments (s : Lowering) (n : ParseNode) : List ElementIndex :=
  match n.field? .arguments with
  | some list => if list.kind = "arguments" then s.childElements list else []
  | none => []

def shape? (s : Lowering) (n : ParseNode) : Option Shape :=
  match Construct.ofKind n.kind with
  | .call =>
    ((n.field? .function).bind fun callee => s.elementOf? callee.unwrapParens).map fun callee =>
      .call callee (s.arguments n)
  | .declarator => (s.fieldOf? n .name).map fun target => .declarator target (s.fieldOf? n .value)
  | .returnStatement => some (.returns (n.elementChildren.head?.bind s.elementOf?))
  | .functionDeclaration | .functionExpression | .namelessFunction =>
    some (.function (s.fieldOf? n .name) (s.parameters n) (s.fieldOf? n .body))
  | _ => none

def giveShape (s : Lowering) (n : ParseNode) (i : ElementIndex) : Lowering :=
  match s.shape? n with
  | some shape => { s with tree := s.tree.setShape i shape }
  | none => s

def mark (s : Lowering) (pattern : ElementIndex) (role : Role) : Lowering :=
  { s with tree := (s.tree.markPattern pattern role).2 }

def define (s : Lowering) (scope : ScopeId) (pattern declaring : ElementIndex) : Lowering :=
  let (names, tree) := s.tree.markPattern pattern .declaration
  { s with tree
           scopes := names.foldl (fun scopes name => scopes.define scope name declaring) s.scopes }

def define? (s : Lowering) (scope : ScopeId) (pattern : Option ElementIndex)
    (declaring : ElementIndex) : Lowering :=
  match pattern with
  | some pattern => s.define scope pattern declaring
  | none => s

def setRole (s : Lowering) (i : ElementIndex) (role : Role) : Lowering :=
  { s with tree := s.tree.setRole i role }

def defineEach (s : Lowering) (scope : ScopeId) (patterns : List ElementIndex) : Lowering :=
  patterns.foldl (fun s pattern => s.define scope pattern pattern) s

/-- Declares what a node binds in its own scope, which is still open. -/
def declareInner (s : Lowering) (n : ParseNode) (i : ElementIndex) : Lowering :=
  let scope := s.currentScope
  match Construct.ofKind n.kind with
  | .functionDeclaration | .namelessFunction => s.defineEach scope (s.parameters n)
  | .functionExpression =>
    (s.defineEach scope (s.parameters n)).define? scope (s.fieldOf? n .name) i
  | .classExpression => s.define? scope (s.fieldOf? n .name) i
  | .catchClause =>
    match s.fieldOf? n .parameter with
    | some parameter => s.define scope parameter parameter
    | none => s
  | .forInLoop =>
    match s.fieldOf? n .left with
    | none => s
    | some left =>
      match (n.field? .kind).map ParseNode.kind with
      | some "var" => s.define (s.scopes.varScope scope) left left
      | some _ => s.define scope left left
      | none => s.mark left .write
  | _ => s

/-- Declares what a node binds around itself, when its own scope is closed. -/
def declareOuter (s : Lowering) (n : ParseNode) (i : ElementIndex) (parentKind : String) :
    Lowering :=
  let scope := s.currentScope
  match Construct.ofKind n.kind with
  | .functionDeclaration => s.define? (s.scopes.varScope scope) (s.fieldOf? n .name) i
  | .classDeclaration => s.define? scope (s.fieldOf? n .name) i
  | .declarator =>
    let target := if parentKind = "variable_declaration" then s.scopes.varScope scope else scope
    s.define? target (s.fieldOf? n .name) i
  | .importSpecifier =>
    match s.fieldOf? n .alias, s.fieldOf? n .name with
    | some localName, some imported =>
      (s.setRole imported .property).define ScopeTree.root localName i
    | some localName, none => s.define ScopeTree.root localName i
    | none, imported => s.define? ScopeTree.root imported i
  | .namespaceImport =>
    (s.childElements n).foldl (fun s localName => s.define ScopeTree.root localName i) s
  | .importClause =>
    let names := n.elementChildren.filter fun child => child.kind = "identifier"
    s.defineEach ScopeTree.root (names.filterMap s.elementOf?)
  | .exportSpecifier =>
    match s.fieldOf? n .alias with
    | some outside => s.setRole outside .property
    | none => s
  | .assignment =>
    match s.fieldOf? n .left with
    | some left => s.mark left .write
    | none => s
  | _ => s

def place (s : Lowering) (source : String) (n : ParseNode) (parent : ElementIndex) : Lowering :=
  let i := s.tree.size
  { s with
    tree := s.tree.push parent n.kind (some n.span) (leafShape source n)
    scopes := s.scopes.assign i s.currentScope
    elements := s.elements.insert n.number i }

def scopeOpened? (n : ParseNode) (parentKind : String) : Option ScopeKind :=
  (Construct.ofKind n.kind).scope? parentKind

def openScope (s : Lowering) (kind : Option ScopeKind) : Lowering :=
  match kind with
  | some kind =>
    { s with
      scopes := s.scopes.addScope s.currentScope kind
      openScopes := s.scopes.count :: s.openScopes }
  | none => s

def closeScope (s : Lowering) (kind : Option ScopeKind) : Lowering :=
  match kind with
  | some _ => { s with openScopes := s.openScopes.tail }
  | none => s

def enter (s : Lowering) (source : String) (n : ParseNode) (parent : ElementIndex)
    (parentKind : String) : Lowering :=
  (s.place source n parent).openScope (scopeOpened? n parentKind)

def leave (s : Lowering) (n : ParseNode) (i : ElementIndex) (parentKind : String) : Lowering :=
  (((s.giveShape n i).declareInner n i).closeScope (scopeOpened? n parentKind)).declareOuter n i
    parentKind

end Lowering
end CrossReference
