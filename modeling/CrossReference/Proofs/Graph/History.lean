import CrossReference.Graph.Data
import CrossReference.Proofs.Graph.Building

set_option autoImplicit false

/-!
# The history of a graph

Nodes and edges are added in any order and as often as one likes. Whatever the history, a graph
holds each identity once, where it came first and with the label it came with; it finds its nodes by
their identities, and it keeps every edge: `stores_run`.
-/
namespace CrossReference.Graph

inductive Change
  | node (n : GraphNode)
  | edge (e : GraphEdge)

def apply (g : Graph) : Change → Graph
  | .node n => (g.insertNode n.id n.label).2
  | .edge e => g.addEdge e

def run (g : Graph) (changes : List Change) : Graph := changes.foldl apply g

def Change.node? : Change → Option GraphNode
  | .node n => some n
  | .edge _ => none

def Change.edge? : Change → Option GraphEdge
  | .node _ => none
  | .edge e => some e

def nodesAdded (changes : List Change) : List GraphNode := changes.filterMap Change.node?

def edgesAdded (changes : List Change) : List GraphEdge := changes.filterMap Change.edge?

variable {g : Graph} {nodes : List GraphNode}

theorem Holds.run (h : g.Holds nodes) (changes : List Change) :
    (g.run changes).Holds (nodes ++ nodesAdded changes) := by
  induction changes generalizing g nodes with
  | nil => rwa [nodesAdded, List.filterMap_nil, List.append_nil]
  | cons change rest ih =>
    cases change with
    | node n =>
      have later := ih (h.addNode n)
      rwa [List.append_assoc] at later
    | edge e =>
      have same : (g.addEdge e).Holds nodes := ⟨h.indexed, h.nodes_eq⟩
      exact ih same

theorem edges_run (g : Graph) (changes : List Change) :
    (g.run changes).edges.toList = g.edges.toList ++ edgesAdded changes := by
  induction changes generalizing g with
  | nil => exact (List.append_nil _).symm
  | cons change rest ih =>
    refine (ih (g.apply change)).trans ?_
    cases change with
    | node n => exact congrArg (·.toList ++ edgesAdded rest) (edges_addNode g n.id n.label)
    | edge e =>
      rw [apply, addEdge, Array.toList_push, List.append_assoc]
      rfl

theorem node?_eq_some_iff (h : g.Indexed) {id : ElementId} {n : GraphNode} :
    g.node? id = some n ↔ n ∈ g.nodes.toList ∧ n.id = id := by
  rw [node?, Option.bind_eq_some_iff]
  constructor
  · rintro ⟨k, known, here⟩
    obtain ⟨m, found, text⟩ := (h id.text k).mp known
    obtain rfl := Option.some.inj (here.symm.trans found)
    exact ⟨List.mem_of_getElem? (Array.getElem?_toList.trans here), ElementId.text_injective text⟩
  · rintro ⟨inside, rfl⟩
    obtain ⟨k, here⟩ := List.mem_iff_getElem?.mp inside
    rw [Array.getElem?_toList] at here
    exact ⟨k, (h _ k).mpr ⟨n, here, rfl⟩, here⟩

theorem insertNode_eq_true_iff (h : g.Holds nodes) {id : ElementId} {label : String} :
    (g.insertNode id label).1 = true ↔ id ∉ nodes.map GraphNode.id := by
  rw [insertNode, Bool.not_eq_true', ← Bool.not_eq_true, containsNode_iff h.indexed, h.nodes_eq,
    id_mem_firstOfEach_iff]

theorem perm_edgesOf (g : Graph) : (Relation.all.flatMap g.edgesOf).Perm g.edges.toList := by
  rw [List.perm_iff_count]
  intro e
  have under (r : Relation) : (g.edgesOf r).count e =
      if e.relation = r then g.edges.toList.count e else 0 := by
    rw [edgesOf]
    split
    · next same => exact List.count_filter (decide_eq_true same)
    · next other =>
      apply List.count_eq_zero_of_not_mem
      intro inside
      exact other (of_decide_eq_true (List.mem_filter.mp inside).2)
  rw [List.count_flatMap]
  cases known : e.relation <;> simp [Relation.all, under, known]

theorem byRelation_stats (g : Graph) :
    g.stats.byRelation = Relation.all.map fun r => (r, (g.edgesOf r).length) := by
  simp only [stats, edgesOf, List.countP_eq_length_filter]

theorem Holds.ids_eq (h : g.Holds nodes) : g.toData.nodes.map NodeData.id =
    ((firstOfEach nodes).map GraphNode.id).map ElementId.text := by
  rw [← h.nodes_eq, List.map_map, toData, List.map_map]
  rfl

theorem Holds.ids_nodup (h : g.Holds nodes) : (g.toData.nodes.map NodeData.id).Nodup := by
  rw [h.ids_eq]
  exact (nodup_firstOfEach nodes).map fun _ _ same => ElementId.text_injective same

theorem Holds.texts_eq (h : g.Holds nodes) : g.toData.nodes.map NodeData.id =
    (nodes.map fun n => n.id.text).eraseDups := by
  have injective : Function.Injective ElementId.text := fun _ _ => ElementId.text_injective
  rw [h.ids_eq, map_id_firstOfEach, ← eraseDups_map_of_injective injective, List.map_map]
  rfl

theorem Holds.find?_data (h : g.Holds nodes) {d : NodeData} (hd : d ∈ g.toData.nodes) :
    (nodes.map GraphNode.toData).find? (fun m => m.id = d.id) = some d := by
  obtain ⟨n, inside, rfl⟩ := List.mem_map.mp hd
  rw [h.nodes_eq] at inside
  have alike : (fun m : NodeData => decide (m.id = n.toData.id)) ∘ GraphNode.toData =
      fun m => decide (m.id = n.id) := by
    funext m
    exact decide_eq_decide.mpr ⟨ElementId.text_injective, congrArg ElementId.text⟩
  rw [List.find?_map, alike, find?_of_mem_firstOfEach inside]
  rfl

/-- What a graph answers at the end of a history. -/
structure Stores (changes : List Change) (g : Graph) : Prop where
  ids_eq : g.nodes.toList.map GraphNode.id = ((nodesAdded changes).map GraphNode.id).eraseDups
  ids_nodup : (g.nodes.toList.map GraphNode.id).Nodup
  first_label : ∀ n ∈ g.nodes.toList, (nodesAdded changes).find? (fun m => m.id = n.id) = some n
  texts_eq : g.toData.nodes.map NodeData.id =
    ((nodesAdded changes).map fun n => n.id.text).eraseDups
  texts_nodup : (g.toData.nodes.map NodeData.id).Nodup
  first_label_of_text : ∀ d ∈ g.toData.nodes,
    ((nodesAdded changes).map GraphNode.toData).find? (fun m => m.id = d.id) = some d
  /-- What would be said of one more node. -/
  isNew_iff : ∀ id label, (g.insertNode id label).1 = true ↔
    id ∉ (nodesAdded changes).map GraphNode.id
  containsNode_iff : ∀ id, g.containsNode id = true ↔ id ∈ g.nodes.toList.map GraphNode.id
  node_eq_some_iff : ∀ id n, g.node? id = some n ↔ n ∈ g.nodes.toList ∧ n.id = id
  edges_eq : g.edges.toList = edgesAdded changes
  links_eq : g.toData.links = (edgesAdded changes).map GraphEdge.toData
  relations_perm : (Relation.all.flatMap g.edgesOf).Perm g.edges.toList
  relation_eq : ∀ r, ∀ e ∈ g.edgesOf r, e.relation = r
  stats_eq : g.stats = ⟨g.nodes.toList.length, g.edges.toList.length,
    Relation.all.map fun r => (r, (g.edgesOf r).length)⟩

theorem stores_run (changes : List Change) : Stores changes (empty.run changes) := by
  have holds : (empty.run changes).Holds (nodesAdded changes) := holds_empty.run changes
  have edges : (empty.run changes).edges.toList = edgesAdded changes := edges_run empty changes
  constructor
  case ids_eq => rw [holds.nodes_eq, map_id_firstOfEach]
  case ids_nodup =>
    rw [holds.nodes_eq]
    exact nodup_firstOfEach _
  case first_label =>
    rw [holds.nodes_eq]
    exact fun n => find?_of_mem_firstOfEach
  case texts_eq => exact holds.texts_eq
  case texts_nodup => exact holds.ids_nodup
  case first_label_of_text => exact fun d => holds.find?_data
  case isNew_iff => exact fun id label => insertNode_eq_true_iff holds
  case containsNode_iff => exact fun id => containsNode_iff holds.indexed
  case node_eq_some_iff => exact fun id n => node?_eq_some_iff holds.indexed
  case edges_eq => exact edges
  case links_eq => rw [toData, edges]
  case relations_perm => exact perm_edgesOf _
  case relation_eq => exact fun r e inside => of_decide_eq_true (List.mem_filter.mp inside).2
  case stats_eq =>
    rw [← byRelation_stats]
    rfl

end CrossReference.Graph
