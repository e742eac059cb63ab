import CrossReference.ElementId

set_option autoImplicit false

/-!
# Elements

An element is a node of the program tree: its kind and place in the source, its neighbours in the
tree, and its shape. The shape carries what the relations between elements are drawn from.
-/
namespace CrossReference

abbrev ElementIndex := Nat

inductive Role
  | read
  | write
  | declaration
  | property
deriving DecidableEq, Repr

inductive Shape
  | program
  | identifier (name : String) (role : Role)
  /-- The callee is the expression inside any parentheses. -/
  | call (callee : ElementIndex) (arguments : List ElementIndex)
  | declarator (target : ElementIndex) (initializer : Option ElementIndex)
  | returns (argument : Option ElementIndex)
  | function (name : Option ElementIndex) (parameters : List ElementIndex)
      (body : Option ElementIndex)
  | other
deriving DecidableEq, Repr

def Shape.setRole (role : Role) : Shape → Shape
  | .identifier name _ => .identifier name role
  | shape => shape

structure Element where
  kind : String
  position : Position
  parent : Option ElementIndex
  children : Array ElementIndex
  shape : Shape
deriving DecidableEq, Repr

namespace Element

def id (e : Element) : ElementId := ⟨e.kind, e.position⟩

def name? (e : Element) : Option String :=
  match e.shape with
  | .identifier name _ => some name
  | _ => none

def isFunction (e : Element) : Bool :=
  match e.shape with
  | .function .. => true
  | _ => false

end Element
end CrossReference
