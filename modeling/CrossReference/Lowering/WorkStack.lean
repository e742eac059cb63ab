import CrossReference.Lowering.Recursion

set_option autoImplicit false

/-!
# Lowering by a work stack

The work that is left is kept on a stack, so the depth of a source is bounded by memory alone. The
main statement is that the stack does the work of the plain recursion: `lower_eq_lowerTree`.
-/
namespace CrossReference.Lowering

inductive Task
  | enter (n : ParseNode) (parent : ElementIndex) (parentKind : String)
  | leave (n : ParseNode) (i : ElementIndex) (parentKind : String)

def Task.cost : Task → Nat
  | .enter n _ _ => 2 * n.size
  | .leave .. => 1

def totalCost : List Task → Nat
  | [] => 0
  | task :: rest => task.cost + totalCost rest

def enterAll (nodes : List ParseNode) (parent : ElementIndex) (parentKind : String) : List Task :=
  nodes.map fun n => .enter n parent parentKind

theorem totalCost_append (a b : List Task) : totalCost (a ++ b) = totalCost a + totalCost b := by
  induction a with
  | nil => exact (Nat.zero_add _).symm
  | cons task rest ih =>
    show task.cost + totalCost (rest ++ b) = task.cost + totalCost rest + totalCost b
    rw [ih, Nat.add_assoc]

theorem size_eq (n : ParseNode) : n.size = 1 + ParseNode.sizeAll n.children := by
  cases n; rfl

theorem totalCost_enterAll_le (nodes : List ParseNode) (parent : ElementIndex) (kind : String) :
    totalCost (enterAll (nodes.filter ParseNode.isElement) parent kind) ≤
      2 * ParseNode.sizeAll nodes := by
  induction nodes with
  | nil => simp [enterAll, totalCost, ParseNode.sizeAll]
  | cons n rest ih =>
    simp only [enterAll, List.filter_cons, ParseNode.sizeAll] at ih ⊢
    split
    · simp only [List.map_cons, totalCost, Task.cost]; omega
    · omega

def runStack (source : String) (s : Lowering) : List Task → Lowering
  | [] => s
  | .enter n parent parentKind :: rest =>
    runStack source (s.enter source n parent parentKind)
      (enterAll n.elementChildren s.tree.size n.kind ++
        .leave n s.tree.size parentKind :: rest)
  | .leave n i parentKind :: rest => runStack source (s.leave n i parentKind) rest
termination_by tasks => totalCost tasks
decreasing_by
  · have below := totalCost_enterAll_le n.children s.tree.size n.kind
    have whole := size_eq n
    simp only [totalCost_append, ParseNode.elementChildren]
    simp only [totalCost, Task.cost] at below ⊢
    omega
  · simp [totalCost, Task.cost]

theorem enterAll_cons (n : ParseNode) (nodes : List ParseNode) (parent : ElementIndex)
    (kind : String) :
    enterAll (n :: nodes) parent kind = .enter n parent kind :: enterAll nodes parent kind := rfl

mutual
/-- The tasks of one node act as one step of the recursion, whatever work follows. -/
theorem runStack_enter (source : String) (parent : ElementIndex) (kind : String) (s : Lowering)
    (rest : List Task) : (n : ParseNode) →
    runStack source s (.enter n parent kind :: rest) =
      runStack source (lowerNode source parent kind s n) rest
  | .mk head fields children => by
    rw [runStack, lowerNode]
    exact (runStack_enterAll source s.tree.size head.kind _ _ children).trans (by rw [runStack])

theorem runStack_enterAll (source : String) (parent : ElementIndex) (kind : String) (s : Lowering)
    (rest : List Task) : (nodes : List ParseNode) →
    runStack source s (enterAll (nodes.filter ParseNode.isElement) parent kind ++ rest) =
      runStack source (lowerNodes source parent kind s nodes) rest
  | [] => by simp [enterAll, lowerNodes]
  | n :: nodes => by
    rw [lowerNodes, List.filter_cons]
    split
    · rw [enterAll_cons, List.cons_append, runStack_enter source parent kind s _ n,
        runStack_enterAll source parent kind _ rest nodes]
    · exact runStack_enterAll source parent kind s rest nodes
end

def lower (source : String) (root : ParseNode) : Lowering :=
  runStack source (start root) (enterAll root.elementChildren ElementTree.root root.kind)

theorem lower_eq_lowerTree (source : String) (root : ParseNode) :
    lower source root = lowerTree source root := by
  have all := runStack_enterAll source ElementTree.root root.kind (start root) [] root.children
  rw [List.append_nil] at all
  rw [lower, ParseNode.elementChildren, all, runStack, lowerTree]

end CrossReference.Lowering
