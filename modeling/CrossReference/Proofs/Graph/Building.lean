import CrossReference.Proofs.Element.Walk
import CrossReference.Proofs.Graph.Contribution
import CrossReference.Proofs.Graph.Store

set_option autoImplicit false

/-!
# The graph that is built

The edges of the graph are the contributions of the elements, one after the other in the order of
the walk; its nodes are the elements touched, each identity where it came first:
`build?_eq_contributions`.
-/
namespace CrossReference

structure Graph.Holds (g : Graph) (nodes : List GraphNode) : Prop where
  indexed : g.Indexed
  nodes_eq : g.nodes.toList = firstOfEach nodes

theorem Graph.holds_empty : empty.Holds [] := ⟨indexed_empty, rfl⟩

theorem Graph.Holds.addNode {g : Graph} {nodes : List GraphNode} (h : g.Holds nodes)
    (n : GraphNode) : (g.addNode n.id n.label).Holds (nodes ++ [n]) := by
  refine ⟨indexed_addNode h.indexed n.id n.label, ?_⟩
  rw [nodes_addNode h.indexed, firstOfEach_concat, h.nodes_eq]
  simp only [id_mem_firstOfEach_iff]

namespace GraphInput

variable {b : GraphInput} {g : Graph} {nodes : List GraphNode}

theorem drawLink_holds (h : g.Holds nodes) (link : Link) :
    (b.drawLink g link).Holds (nodes ++ [link.source, link.target].map b.node) := by
  have both := (h.addNode (b.node link.source)).addNode (b.node link.target)
  rw [List.append_assoc] at both
  exact ⟨both.indexed, both.nodes_eq⟩

theorem drawLinks_holds (h : g.Holds nodes) (links : List Link) :
    (b.drawLinks g links).Holds
      (nodes ++ (links.flatMap fun link => [link.source, link.target]).map b.node) := by
  induction links generalizing g nodes with
  | nil => rwa [List.flatMap_nil, List.map_nil, List.append_nil]
  | cons link rest ih =>
    rw [List.flatMap_cons, List.map_append, ← List.append_assoc]
    exact ih (drawLink_holds h link)

theorem draw_holds (h : g.Holds nodes) (i : Nat) :
    (b.draw g i).Holds (nodes ++ (b.tree.touched b.resolve i).map b.node) := by
  rw [draw, ElementTree.touched, List.map_append, ← List.append_assoc]
  apply drawLinks_holds
  cases b.tree.standsAlone i with
  | true => exact h.addNode (b.node i)
  | false =>
    rwa [if_neg Bool.false_ne_true, if_neg Bool.false_ne_true, List.map_nil, List.append_nil]

theorem edges_drawNode (b : GraphInput) (g : Graph) (i : Nat) :
    (b.drawNode g i).edges = g.edges := Graph.edges_addNode ..

theorem edges_drawLinks (b : GraphInput) (g : Graph) (links : List Link) :
    (b.drawLinks g links).edges.toList =
      g.edges.toList ++ links.map (b.tree.edge b.options.palette) := by
  induction links generalizing g with
  | nil => exact (List.append_nil _).symm
  | cons link rest ih =>
    have one : (b.drawLink g link).edges.toList =
        g.edges.toList ++ [b.tree.edge b.options.palette link] := by
      show ((b.drawNode (b.drawNode g link.source) link.target).edges.push _).toList = _
      rw [edges_drawNode, edges_drawNode, Array.toList_push]
    show (b.drawLinks (b.drawLink g link) rest).edges.toList = _
    rw [ih, one, List.append_assoc]
    rfl

theorem edges_draw (b : GraphInput) (g : Graph) (i : Nat) : (b.draw g i).edges.toList =
    g.edges.toList ++ b.tree.contribution b.resolve b.options.palette i := by
  rw [draw, edges_drawLinks, ElementTree.contribution]
  split
  · rw [edges_drawNode]
  · rfl

theorem visitAll?_eq (h : b.InRange) (g : Graph) {order : List Nat}
    (inside : ∀ i ∈ order, i < b.tree.size) :
    b.visitAll? g order = some (order.foldl b.draw g) := by
  induction order generalizing g with
  | nil => rfl
  | cons i rest ih =>
    rw [visitAll?, List.foldlM_cons, visit?_eq h g (inside i List.mem_cons_self)]
    exact ih _ fun j hj => inside j (List.mem_cons_of_mem _ hj)

theorem foldl_draw_holds (h : g.Holds nodes) (order : List Nat) :
    (order.foldl b.draw g).Holds
      (nodes ++ (order.flatMap (b.tree.touched b.resolve)).map b.node) := by
  induction order generalizing g nodes with
  | nil => rwa [List.flatMap_nil, List.map_nil, List.append_nil]
  | cons i rest ih =>
    rw [List.flatMap_cons, List.map_append, ← List.append_assoc]
    exact ih (draw_holds h i)

theorem edges_foldl_draw (b : GraphInput) (g : Graph) (order : List Nat) :
    (order.foldl b.draw g).edges.toList = g.edges.toList ++
      order.flatMap (b.tree.contribution b.resolve b.options.palette) := by
  induction order generalizing g with
  | nil => exact (List.append_nil _).symm
  | cons i rest ih =>
    rw [List.foldl_cons, ih, edges_draw, List.flatMap_cons, List.append_assoc]

theorem build?_eq (h : b.InRange) : b.build? = some (b.tree.walk.foldl b.draw Graph.empty) :=
  visitAll?_eq h _ fun _ hi => ElementTree.lt_size_of_mem_walk h.linked hi

/-- Edges are contributed element by element; nodes are the elements touched, without repetition. -/
theorem build?_eq_contributions (built : b.tree.Built) (shapes : b.tree.ShapesInside)
    (resolve : ∀ (i : Nat) (name : String) (d : Nat), b.resolve i name = some d → d < b.tree.size) :
    ∃ g, b.build? = some g ∧
      g.edges.toList =
        b.tree.walk.flatMap (b.tree.contribution b.resolve b.options.palette) ∧
      g.nodes.toList =
        firstOfEach ((b.tree.walk.flatMap (b.tree.touched b.resolve)).map b.node) := by
  have h : b.InRange := ⟨built.linked, shapes, resolve⟩
  refine ⟨_, build?_eq h, ?_, (foldl_draw_holds Graph.holds_empty b.tree.walk).nodes_eq⟩
  exact edges_foldl_draw b Graph.empty b.tree.walk

/-- A function, and a variable that is given the value of a call of it:
    `function f(x) { return x } var x = f(x)`. -/
def functionAndCall : GraphInput where
  tree := ((((((((((ElementTree.new "program" (some ⟨0, 39⟩)).push
    0 "function_declaration" (some ⟨0, 26⟩) (.function (some 2) [3] none)).push
    1 "identifier" (some ⟨9, 10⟩) (.identifier "f" .declaration)).push
    1 "identifier" (some ⟨11, 12⟩) (.identifier "x" .declaration)).push
    1 "return_statement" (some ⟨16, 24⟩) (.returns (some 5))).push
    4 "identifier" (some ⟨23, 24⟩) (.identifier "x" .read)).push
    0 "variable_declarator" (some ⟨31, 39⟩) (.declarator 7 (some 8))).push
    6 "identifier" (some ⟨31, 32⟩) (.identifier "x" .declaration)).push
    6 "call_expression" (some ⟨35, 39⟩) (.call 9 [10])).push
    8 "identifier" (some ⟨35, 36⟩) (.identifier "f" .read)).push
    8 "identifier" (some ⟨37, 38⟩) (.identifier "x" .read)
  resolve i name :=
    if name = "f" then some 1 else if name = "x" then some (if i = 5 then 3 else 6) else none

theorem built_functionAndCall : functionAndCall.tree.Built := by
  dsimp only [functionAndCall]
  refine ((((((((((ElementTree.Built.new _ _).push 0 ?_ _ _ _).push 1 ?_ _ _ _).push
    1 ?_ _ _ _).push 1 ?_ _ _ _).push 4 ?_ _ _ _).push 0 ?_ _ _ _).push 6 ?_ _ _ _).push
    6 ?_ _ _ _).push 8 ?_ _ _ _).push 8 ?_ _ _ _
  all_goals decide

theorem shapesInside_functionAndCall : functionAndCall.tree.ShapesInside := by decide

theorem resolve_functionAndCall (i : Nat) (name : String) (d : Nat)
    (found : functionAndCall.resolve i name = some d) : d < functionAndCall.tree.size := by
  have size : functionAndCall.tree.size = 11 := by decide
  dsimp only [functionAndCall] at found
  rw [size]
  split_ifs at found <;> cases found <;> decide

theorem build?_eq_contributions_functionAndCall : functionAndCall.tree.Built ∧
    functionAndCall.tree.ShapesInside ∧
    (∀ (i : Nat) (name : String) (d : Nat), functionAndCall.resolve i name = some d →
      d < functionAndCall.tree.size) ∧
    ∃ g, functionAndCall.build? = some g ∧
      g.edges.toList.map (fun e => (e.source.text, e.target.text, e.relation)) =
        [("function_declaration-0:26", "identifier-23:24", .returnArgument),
          ("identifier-23:24", "identifier-11:12", .reference),
          ("variable_declarator-31:39", "call_expression-35:39", .valueAssignment),
          ("call_expression-35:39", "function_declaration-0:26", .callCallee),
          ("identifier-11:12", "identifier-37:38", .callArgumentBinding),
          ("identifier-35:36", "function_declaration-0:26", .reference),
          ("identifier-37:38", "variable_declarator-31:39", .reference)] ∧
      g.nodes.toList.map GraphNode.label = ["function_declaration-0:26", "identifier-23:24",
        "identifier-11:12", "variable_declarator-31:39", "call_expression-35:39",
        "identifier-37:38", "identifier-35:36"] := by
  obtain ⟨g, run, edges, nodes⟩ := build?_eq_contributions built_functionAndCall
    shapesInside_functionAndCall resolve_functionAndCall
  refine ⟨built_functionAndCall, shapesInside_functionAndCall, resolve_functionAndCall, g, run,
    ?_, ?_⟩
  · rw [edges]
    decide +kernel
  · rw [nodes]
    decide +kernel

end GraphInput
end CrossReference
