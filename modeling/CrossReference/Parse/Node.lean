import CrossReference.Span

set_option autoImplicit false

/-!
# Parse trees

What a parser hands over: a tree of nodes, named and anonymous, with the parts of a node that the
grammar gives a name. A named node that is no extra, such as a comment, becomes an element of the
program; the others only say how it was written.
-/
namespace CrossReference

inductive Field
  | alias
  | arguments
  | body
  | function
  | kind
  | left
  | name
  | parameter
  | parameters
  | value
deriving DecidableEq, Repr

/-- What a parser says of one node. The number tells the nodes of one tree apart. -/
structure NodeHead where
  number : Nat
  kind : String
  span : Span
  isNamed : Bool
  isExtra : Bool
  isError : Bool
  isMissing : Bool
  hasFault : Bool
deriving DecidableEq, Repr

inductive ParseNode
  | mk (head : NodeHead) (fields : List (Field × ParseNode)) (children : List ParseNode)

namespace ParseNode

def head : ParseNode → NodeHead
  | mk head _ _ => head

def fields : ParseNode → List (Field × ParseNode)
  | mk _ fields _ => fields

def children : ParseNode → List ParseNode
  | mk _ _ children => children

def number (n : ParseNode) : Nat := n.head.number

def kind (n : ParseNode) : String := n.head.kind

def span (n : ParseNode) : Span := n.head.span

/-- Comments and anonymous tokens are no elements. -/
def isElement (n : ParseNode) : Bool := n.head.isNamed && !n.head.isExtra

def elementChildren (n : ParseNode) : List ParseNode := n.children.filter isElement

def field? (n : ParseNode) (f : Field) : Option ParseNode :=
  (n.fields.find? fun part => part.1 = f).map Prod.snd

mutual
def size : ParseNode → Nat
  | mk _ _ children => 1 + sizeAll children

def sizeAll : List ParseNode → Nat
  | [] => 0
  | n :: rest => n.size + sizeAll rest
end

mutual
/-- The expression inside any number of parentheses. Empty parentheses stay as they are. -/
def unwrapParens : ParseNode → ParseNode
  | mk head fields children =>
    if head.kind = "parenthesized_expression" then
      (unwrapFirst children).getD (mk head fields children)
    else mk head fields children

def unwrapFirst : List ParseNode → Option ParseNode
  | [] => none
  | n :: rest => if n.isElement then some n.unwrapParens else unwrapFirst rest
end

end ParseNode

/-- One node of a parse tree laid out as a table, where nodes refer to each other by row. -/
structure ParseRow where
  parent : Option Nat
  kind : String
  span : Span
  flags : List Char
  fields : List (Field × Nat)

namespace ParseRow

def toNode (number : Nat) (row : ParseRow) (children : List ParseNode) : ParseNode :=
  let head : NodeHead :=
    { number, kind := row.kind, span := row.span
      isNamed := row.flags.contains 'n', isExtra := row.flags.contains 'x'
      isError := row.flags.contains 'e', isMissing := row.flags.contains 'm'
      hasFault := row.flags.contains 'h' }
  let fields := row.fields.filterMap fun (f, row) =>
    (children.find? fun n => n.number = row).map fun n => (f, n)
  .mk head fields children

/-- Builds the last row first: `pending` holds, row by row, the children that are done, so that a
    row finds its own there when its turn comes. -/
def build : List (Nat × ParseRow) → Array (List ParseNode) → Option ParseNode
  | [], _ => none
  | (number, row) :: earlier, pending =>
    let node := row.toNode number (pending[number]?.getD [])
    match row.parent with
    | none => some node
    | some parent => build earlier (pending.modify parent (node :: ·))

end ParseRow

def ParseNode.ofRows? (rows : List ParseRow) : Option ParseNode :=
  ParseRow.build ((rows.mapIdx fun i row => (i, row)).reverse) (Array.replicate rows.length [])

end CrossReference
