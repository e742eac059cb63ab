import CrossReference.Parse.Node
import CrossReference.Text.Slice

set_option autoImplicit false

/-!
# Syntax faults

A parser recovers from errors: it marks what it could not read as an error and what it had to invent
as missing. The fault of a source is the first such node in pre-order.
-/
namespace CrossReference

inductive SyntaxFault
  | missing (kind : String) (place : Text.Place)
  | unexpected (place : Text.Place)
  /-- A tree is marked as faulty, but no node in it is. -/
  | unlocated
deriving DecidableEq, Repr

def SyntaxFault.describe : SyntaxFault → String
  | .missing kind place =>
    "missing \x60" ++ kind ++ "\x60 at line " ++ toString place.line
      ++ ", column " ++ toString place.column
  | .unexpected place =>
    "syntax error at line " ++ toString place.line ++ ", column " ++ toString place.column
  | .unlocated => "syntax error"

namespace ParseNode

def isFaulty (n : ParseNode) : Bool := n.head.isError || n.head.isMissing

theorem sizeAll_append (a b : List ParseNode) : sizeAll (a ++ b) = sizeAll a + sizeAll b := by
  induction a with
  | nil => exact (Nat.zero_add _).symm
  | cons n rest ih => rw [List.cons_append, sizeAll, sizeAll, ih, Nat.add_assoc]

theorem sizeAll_filter_le (p : ParseNode → Bool) (list : List ParseNode) :
    sizeAll (list.filter p) ≤ sizeAll list := by
  induction list with
  | nil => exact Nat.le_refl _
  | cons n rest ih =>
    rw [List.filter_cons, sizeAll]
    split
    · rw [sizeAll]
      exact Nat.add_le_add_left ih _
    · exact Nat.le_add_left_of_le ih

def markedChildren (n : ParseNode) : List ParseNode := n.children.filter fun c => c.head.hasFault

theorem sizeAll_markedChildren_lt (n : ParseNode) : sizeAll n.markedChildren < n.size := by
  cases n with
  | mk head fields children =>
    have below := sizeAll_filter_le (fun c => c.head.hasFault) children
    rw [size]
    exact Nat.lt_one_add_iff.mpr below

/-- The first fault among the nodes on a stack and all below them, in pre-order. Nodes without a
    mark never come onto the stack. -/
def firstFaultOn? : List ParseNode → Option ParseNode
  | [] => none
  | n :: stack =>
    if n.isFaulty then some n else firstFaultOn? (n.markedChildren ++ stack)
termination_by stack => sizeAll stack
decreasing_by
  rw [sizeAll_append, sizeAll]
  exact Nat.add_lt_add_right n.sizeAll_markedChildren_lt _

def firstFault? (root : ParseNode) : Option ParseNode := firstFaultOn? [root]

def describeFault (root : ParseNode) (source : String) : SyntaxFault :=
  match root.firstFault? with
  | none => .unlocated
  | some n =>
    let place := Text.placeAt source n.span.start.toNat
    if n.head.isMissing then .missing n.kind place else .unexpected place

def fault? (root : ParseNode) (source : String) : Option SyntaxFault :=
  if root.head.hasFault then some (root.describeFault source) else none

end ParseNode
end CrossReference
