import CrossReference.Lowering.State

set_option autoImplicit false

/-!
# Lowering by recursion

The plain order of lowering: enter a node, lower the nodes below it from left to right, leave it.
-/
namespace CrossReference.Lowering

mutual
def lowerNode (source : String) (parent : ElementIndex) (parentKind : String) (s : Lowering) :
    ParseNode → Lowering
  | .mk head fields children =>
    let n : ParseNode := .mk head fields children
    let i := s.tree.size
    (lowerNodes source i head.kind (s.enter source n parent parentKind) children).leave n i
      parentKind

def lowerNodes (source : String) (parent : ElementIndex) (parentKind : String) (s : Lowering) :
    List ParseNode → Lowering
  | [] => s
  | n :: rest =>
    if n.isElement then
      lowerNodes source parent parentKind (lowerNode source parent parentKind s n) rest
    else lowerNodes source parent parentKind s rest
end

def lowerTree (source : String) (root : ParseNode) : Lowering :=
  lowerNodes source ElementTree.root root.kind (start root) root.children

end CrossReference.Lowering
