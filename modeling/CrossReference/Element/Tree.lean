import CrossReference.Element.Basic
import CrossReference.Text.Slice

set_option autoImplicit false

/-!
# Element trees

The elements of one source in a single table. The root is number zero, an element enters the table
after its parent, and children are listed in the order in which they entered. An element without a
span gets the next ordinal of its tree, so its identity is its own.
-/
namespace CrossReference

structure ElementTree where
  elements : Array Element
  nextOrdinal : UInt32
deriving Repr

namespace ElementTree

def root : ElementIndex := 0

def size (t : ElementTree) : Nat := t.elements.size

def isEmpty (t : ElementTree) : Bool := t.size ≤ 1

def element? (t : ElementTree) (i : ElementIndex) : Option Element := t.elements[i]?

def childrenOf (t : ElementTree) (i : ElementIndex) : List ElementIndex :=
  ((t.element? i).map fun e => e.children.toList).getD []

def nextPosition (t : ElementTree) : Option Span → Position × UInt32
  | some span => (.at span, t.nextOrdinal)
  | none => (.synthetic t.nextOrdinal, t.nextOrdinal + 1)

def new (kind : String) (span : Option Span) : ElementTree :=
  let start : ElementTree := ⟨#[], 0⟩
  let (position, rest) := start.nextPosition span
  ⟨#[⟨kind, position, none, #[], .program⟩], rest⟩

/-- Appends an element as the last child of `parent`. Its number is the size of the tree before. -/
def push (t : ElementTree) (parent : ElementIndex) (kind : String) (span : Option Span)
    (shape : Shape) : ElementTree :=
  let (position, rest) := t.nextPosition span
  let elements := t.elements.modify parent fun e => { e with children := e.children.push t.size }
  ⟨elements.push ⟨kind, position, some parent, #[], shape⟩, rest⟩

def modifyShape (t : ElementTree) (i : ElementIndex) (f : Shape → Shape) : ElementTree :=
  { t with elements := t.elements.modify i fun e => { e with shape := f e.shape } }

def setShape (t : ElementTree) (i : ElementIndex) (shape : Shape) : ElementTree :=
  t.modifyShape i fun _ => shape

def setRole (t : ElementTree) (i : ElementIndex) (role : Role) : ElementTree :=
  t.modifyShape i (Shape.setRole role)

def contains (t : ElementTree) (i : ElementIndex) : Bool := i < t.size

def push? (t : ElementTree) (parent : ElementIndex) (kind : String) (span : Option Span)
    (shape : Shape) : Option ElementTree :=
  if t.contains parent then some (t.push parent kind span shape) else none

def setShape? (t : ElementTree) (i : ElementIndex) (shape : Shape) : Option ElementTree :=
  if t.contains i then some (t.setShape i shape) else none

def setRole? (t : ElementTree) (i : ElementIndex) (role : Role) : Option ElementTree :=
  if t.contains i then some (t.setRole i role) else none

def id? (t : ElementTree) (i : ElementIndex) : Option ElementId := (t.element? i).map Element.id

/-- Visits the elements on a stack and all below them, parents first and siblings in order. One
    element leaves the stack at each step, so a tree is done after as many steps as it has. -/
def walkFrom (t : ElementTree) : Nat → List ElementIndex → List ElementIndex
  | 0, _ => []
  | _, [] => []
  | steps + 1, i :: stack => i :: walkFrom t steps (t.childrenOf i ++ stack)

def walk (t : ElementTree) : List ElementIndex := t.walkFrom t.size [root]

def functionAbove (t : ElementTree) : Nat → Option ElementIndex → ElementIndex
  | 0, _ => root
  | _, none => root
  | steps + 1, some i =>
    match t.element? i with
    | some e => if e.isFunction then i else functionAbove t steps e.parent
    | none => root

/-- The nearest function around an element, not the element itself; the root where there is none.
    Nothing is known of an element outside the tree. -/
def enclosingFunction? (t : ElementTree) (i : ElementIndex) : Option ElementIndex :=
  (t.element? i).map fun e => t.functionAbove t.size e.parent

/-- The parameters of what a call names: of a function, or of a declarator that holds one. There is
    no answer where an element outside the tree would have to be looked at. -/
def parametersOf? (t : ElementTree) (i : ElementIndex) : Option (List ElementIndex) := do
  match (← t.element? i).shape with
  | .function _ parameters _ => some parameters
  | .declarator _ (some initializer) =>
    match (← t.element? initializer).shape with
    | .function _ parameters _ => some parameters
    | _ => some []
  | _ => some []

/-- The first name among the elements on a stack and all below them. Property names are passed over,
    and nothing below an identifier is looked at. -/
def nameFrom (t : ElementTree) : Nat → List ElementIndex → Option String
  | 0, _ => none
  | _, [] => none
  | steps + 1, i :: stack =>
    match (t.element? i).map Element.shape with
    | some (.identifier _ .property) => nameFrom t steps stack
    | some (.identifier name _) => some name
    | _ => nameFrom t steps (t.childrenOf i ++ stack)

def bindingName? (t : ElementTree) (i : ElementIndex) : Option (Option String) := do
  let e ← t.element? i
  match e.name? with
  | some name => some (some name)
  | none => some (t.nameFrom t.size e.children.toList)

def text? (t : ElementTree) (i : ElementIndex) (source : String) : Option (Option String) := do
  let e ← t.element? i
  return e.id.span?.bind fun span => Text.slice? source span.start.toNat span.stop.toNat

theorem size_push (t : ElementTree) (parent : ElementIndex) (kind : String) (span : Option Span)
    (shape : Shape) : (t.push parent kind span shape).size = t.size + 1 := by
  simp [push, size]

theorem size_modifyShape (t : ElementTree) (i : ElementIndex) (f : Shape → Shape) :
    (t.modifyShape i f).size = t.size := by
  simp [modifyShape, size]

theorem element?_modifyShape (t : ElementTree) (i j : ElementIndex) (f : Shape → Shape) :
    (t.modifyShape i f).element? j =
      if i = j then (t.element? j).map fun e => { e with shape := f e.shape }
      else t.element? j := by
  simp only [element?, modifyShape, Array.getElem?_modify]

theorem element?_push_of_lt (t : ElementTree) (parent : ElementIndex) (kind : String)
    (span : Option Span) (shape : Shape) {i : ElementIndex} (h : i < t.size) :
    (t.push parent kind span shape).element? i =
      if parent = i then (t.element? i).map fun e => { e with children := e.children.push t.size }
      else t.element? i := by
  have inside : i < (t.elements.modify parent fun e =>
      { e with children := e.children.push t.size }).size := by
    rw [Array.size_modify]; exact h
  simp only [element?, push]
  rw [Array.getElem?_push_lt inside, ← Array.getElem?_eq_getElem inside, Array.getElem?_modify]

theorem element?_push_size (t : ElementTree) (parent : ElementIndex) (kind : String)
    (span : Option Span) (shape : Shape) :
    (t.push parent kind span shape).element? t.size =
      some ⟨kind, (t.nextPosition span).1, some parent, #[], shape⟩ := by
  simp only [element?, push, size]
  rw [Array.getElem?_push, Array.size_modify, if_pos rfl]

theorem element?_eq_none_iff (t : ElementTree) (i : ElementIndex) :
    t.element? i = none ↔ t.size ≤ i := Array.getElem?_eq_none_iff

end ElementTree
end CrossReference
