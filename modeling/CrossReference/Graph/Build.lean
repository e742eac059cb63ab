import CrossReference.Graph.Basic
import CrossReference.Element.Tree
import CrossReference.Text.Excerpt

set_option autoImplicit false

/-!
# Building a graph

One walk over the elements draws every relation. What is missing, such as a declaration that no name
resolves to, an initializer or an argument, leaves out the edge and is no error. The one failure is
a shape that names an element outside the tree; `none` stands for it.
-/
namespace CrossReference

inductive LabelMode
  | id
  | excerpt
deriving DecidableEq, Repr

structure GraphOptions where
  labels : LabelMode := .id
  excerptWidth : UInt64 := 24
  palette : Palette := {}
deriving DecidableEq, Repr

structure GraphInput where
  tree : ElementTree
  resolve : ElementIndex → String → Option ElementIndex
  source : Option String := none
  options : GraphOptions := {}

namespace GraphInput

/-- The label of an element. An excerpt gives way to the identity where there is no text. -/
def label? (b : GraphInput) (i : ElementIndex) : Option String := do
  let e ← b.tree.element? i
  match b.options.labels, b.source with
  | .excerpt, some source =>
    match ← b.tree.text? i source with
    | some text => some (Text.excerpt text b.options.excerptWidth.toNat)
    | none => some e.id.text
  | _, _ => some e.id.text

def addNode? (b : GraphInput) (g : Graph) (i : ElementIndex) : Option Graph := do
  let e ← b.tree.element? i
  let label ← b.label? i
  return g.addNode e.id label

def addEdge? (b : GraphInput) (g : Graph) (source target : ElementIndex) (relation : Relation)
    (label : String) : Option Graph := do
  let sourceId ← b.tree.id? source
  let targetId ← b.tree.id? target
  return g.addEdge ⟨sourceId, targetId, relation, label, b.options.palette.color relation⟩

def connect? (b : GraphInput) (g : Graph) (source target : ElementIndex) (relation : Relation)
    (label : String) : Option Graph := do
  let g ← b.addNode? g source
  let g ← b.addNode? g target
  b.addEdge? g source target relation label

def addReference? (b : GraphInput) (g : Graph) (i : ElementIndex) (name : String) :
    Option Graph := do
  let g ← b.addNode? g i
  match b.resolve i name with
  | none => some g
  | some declaration =>
    b.connect? g i declaration .reference ("ref: \"" ++ name ++ "\"")

/-- What a call calls: the declaration of a plain name, any other expression itself. The outer
    `none` says that the callee is outside the tree, the inner one that its name is not declared. -/
def callTarget? (b : GraphInput) (callee : ElementIndex) : Option (Option ElementIndex) := do
  match (← b.tree.element? callee).name? with
  | some name => some (b.resolve callee name)
  | none => some (some callee)

def restParameter? (b : GraphInput) (parameters : List ElementIndex) :
    Option (Option ElementIndex) := do
  match parameters.getLast? with
  | none => some none
  | some last =>
    let e ← b.tree.element? last
    return if e.kind = "rest_pattern" then some last else none

/-- Joins parameters to arguments place by place. A spread argument hides how many arguments it
    stands for, so it ends the binding, as does the end of the parameters. -/
def bindArguments? (b : GraphInput) (parameters : List ElementIndex) (rest : Option ElementIndex) :
    Nat → List ElementIndex → Graph → Option Graph
  | _, [], g => some g
  | place, argument :: arguments, g => do
    if (← b.tree.element? argument).kind = "spread_element" then
      return g
    match parameters[place]? <|> rest with
    | none => some g
    | some parameter =>
      let bound ← b.tree.bindingName? parameter
      let name := bound.getD (← b.tree.element? parameter).kind
      let g ← b.connect? g parameter argument .callArgumentBinding ("call args: \"" ++ name ++ "\"")
      b.bindArguments? parameters rest (place + 1) arguments g

def addCall? (b : GraphInput) (g : Graph) (i callee : ElementIndex)
    (arguments : List ElementIndex) : Option Graph := do
  let g ← b.addNode? g i
  match ← b.callTarget? callee with
  | none => some g
  | some target =>
    let id ← b.tree.id? i
    let g ← b.connect? g i target .callCallee ("call callee: \"" ++ id.text ++ "\"")
    let parameters ← b.tree.parametersOf? target
    let rest ← b.restParameter? parameters
    b.bindArguments? parameters rest 0 arguments g

def addDeclarator? (b : GraphInput) (g : Graph) (i : ElementIndex)
    (initializer : Option ElementIndex) : Option Graph := do
  let g ← b.addNode? g i
  match initializer with
  | none => some g
  | some initializer => b.connect? g i initializer .valueAssignment "value assignment"

def addReturn? (b : GraphInput) (g : Graph) (i : ElementIndex) (argument : Option ElementIndex) :
    Option Graph := do
  match argument with
  | none => some g
  | some argument =>
    let function ← b.tree.enclosingFunction? i
    b.connect? g function argument .returnArgument "return argument"

def visit? (b : GraphInput) (g : Graph) (i : ElementIndex) : Option Graph := do
  match (← b.tree.element? i).shape with
  | .identifier name .read => b.addReference? g i name
  | .call callee arguments => b.addCall? g i callee arguments
  | .declarator _ initializer => b.addDeclarator? g i initializer
  | .returns argument => b.addReturn? g i argument
  | _ => some g

def visitAll? (b : GraphInput) (g : Graph) (order : List ElementIndex) : Option Graph :=
  order.foldlM b.visit? g

def build? (b : GraphInput) : Option Graph := b.visitAll? Graph.empty b.tree.walk

end GraphInput
end CrossReference
