import CrossReference.Lowering.WorkStack
import CrossReference.Proofs.Lowering.Keeps

set_option autoImplicit false

/-!
# The work stack does the work of a recursion

One visit lowers a node with all below it, visiting the elements below in order between entering and
leaving. The stack gives what such visits give, and leaves open the scopes that were open before:
`lower_recurses`.
-/
namespace CrossReference.Lowering

/-- A visit places the node, opens its scope, visits the elements below, gives the shape, declares
    what belongs inside, closes the scope and declares what belongs around. -/
def Recurses (source : String)
    (visit : ElementIndex → String → Lowering → ParseNode → Lowering) : Prop :=
  ∀ (p : ElementIndex) (kind : String) (σ : Lowering) (n : ParseNode),
    let i := σ.tree.size
    let opened := scopeOpened? n kind
    let entered := (σ.place source n p).openScope opened
    let below := n.elementChildren.foldl (visit i n.kind) entered
    visit p kind σ n =
      (((below.giveShape n i).declareInner n i).closeScope opened).declareOuter n i kind

theorem lowerNodes_eq_foldl (source : String) (p : ElementIndex) (kind : String) (σ : Lowering)
    (nodes : List ParseNode) : lowerNodes source p kind σ nodes =
      (nodes.filter ParseNode.isElement).foldl (lowerNode source p kind) σ := by
  induction nodes generalizing σ with
  | nil => rw [lowerNodes]; rfl
  | cons n rest ih =>
    rw [lowerNodes, List.filter_cons]
    split
    · exact ih (lowerNode source p kind σ n)
    · exact ih σ

theorem lowerNode_recurses (source : String) : Recurses source (lowerNode source) := by
  intro p kind σ n
  cases n with
  | mk head fields children =>
    rw [lowerNode, lowerNodes_eq_foldl]
    rfl

theorem giveShape_openScopes (σ : Lowering) (n : ParseNode) (i : ElementIndex) :
    (σ.giveShape n i).openScopes = σ.openScopes := by
  rw [giveShape]
  split <;> rfl

theorem leave_openScopes (σ σ' : Lowering) (source : String) (n : ParseNode) (p i : ElementIndex)
    (kind : String) (same : σ'.openScopes = (σ.enter source n p kind).openScopes) :
    (σ'.leave n i kind).openScopes = σ.openScopes := by
  have declared : ((σ'.giveShape n i).declareInner n i).openScopes =
      (σ.enter source n p kind).openScopes :=
    (declareInner_keeps _ n i).openScopes.trans ((giveShape_openScopes σ' n i).trans same)
  rw [leave, (declareOuter_keeps _ n i kind).openScopes]
  rw [enter] at declared
  generalize scopeOpened? n kind = opened at declared ⊢
  cases opened with
  | none => exact declared
  | some scope => exact congrArg List.tail declared

mutual
theorem lowerNode_openScopes (source : String) (p : ElementIndex) (kind : String) (σ : Lowering) :
    (n : ParseNode) → (lowerNode source p kind σ n).openScopes = σ.openScopes
  | .mk head fields children => by
    rw [lowerNode]
    exact leave_openScopes σ _ source (.mk head fields children) p _ kind
      (lowerNodes_openScopes source σ.tree.size head.kind _ children)

theorem lowerNodes_openScopes (source : String) (p : ElementIndex) (kind : String) (σ : Lowering) :
    (nodes : List ParseNode) → (lowerNodes source p kind σ nodes).openScopes = σ.openScopes
  | [] => by rw [lowerNodes]
  | n :: rest => by
    rw [lowerNodes]
    split
    · rw [lowerNodes_openScopes source p kind _ rest, lowerNode_openScopes source p kind σ n]
    · exact lowerNodes_openScopes source p kind σ rest
end

/-- The stack ends in the state of the recursion: with its elements, shapes, roles, scopes and
    declarations, and with the scopes open that were open at the start. -/
theorem lower_recurses (source : String) (root : ParseNode) :
    Recurses source (lowerNode source) ∧
      lower source root = root.elementChildren.foldl
        (lowerNode source ElementTree.root root.kind) (start root) ∧
      (lower source root).openScopes = (start root).openScopes := by
  refine ⟨lowerNode_recurses source, ?_, ?_⟩
  · rw [lower_eq_lowerTree, lowerTree, lowerNodes_eq_foldl]
    rfl
  · rw [lower_eq_lowerTree]
    exact lowerNodes_openScopes source ElementTree.root root.kind (start root) root.children

end CrossReference.Lowering
