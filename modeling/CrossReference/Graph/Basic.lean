import CrossReference.Relation
import Std.Data.TreeMap

set_option autoImplicit false

/-!
# Reference graphs

Nodes are elements, each of them in the graph once and in the order of first arrival; edges are
relations between elements, kept in order and never merged.
-/
namespace CrossReference

structure GraphNode where
  id : ElementId
  label : String
deriving DecidableEq, Repr

structure GraphEdge where
  source : ElementId
  target : ElementId
  relation : Relation
  label : String
  color : String
deriving DecidableEq, Repr

structure Graph where
  nodes : Array GraphNode
  /-- Where each node stands among the nodes, by the text of its identity. -/
  index : Std.TreeMap String Nat
  edges : Array GraphEdge

namespace Graph

def empty : Graph := ⟨#[], ∅, #[]⟩

def containsNode (g : Graph) (id : ElementId) : Bool := g.index.contains id.text

def node? (g : Graph) (id : ElementId) : Option GraphNode :=
  g.index[id.text]?.bind fun i => g.nodes[i]?

/-- Adds a node. A node that is in the graph already keeps its place and label. -/
def addNode (g : Graph) (id : ElementId) (label : String) : Graph :=
  if g.containsNode id then g
  else { g with nodes := g.nodes.push ⟨id, label⟩, index := g.index.insert id.text g.nodes.size }

def insertNode (g : Graph) (id : ElementId) (label : String) : Bool × Graph :=
  (!g.containsNode id, g.addNode id label)

def addEdge (g : Graph) (edge : GraphEdge) : Graph := { g with edges := g.edges.push edge }

def isEmpty (g : Graph) : Bool := g.nodes.isEmpty && g.edges.isEmpty

def edgesFrom (g : Graph) (id : ElementId) : List GraphEdge :=
  g.edges.toList.filter fun e => e.source = id

def edgesTo (g : Graph) (id : ElementId) : List GraphEdge :=
  g.edges.toList.filter fun e => e.target = id

def edgesOf (g : Graph) (relation : Relation) : List GraphEdge :=
  g.edges.toList.filter fun e => e.relation = relation

end Graph

structure GraphStats where
  nodes : Nat
  edges : Nat
  byRelation : List (Relation × Nat)
deriving DecidableEq, Repr

def Graph.stats (g : Graph) : GraphStats :=
  ⟨g.nodes.size, g.edges.size,
    Relation.all.map fun r => (r, g.edges.toList.countP fun e => e.relation = r)⟩

def GraphStats.describe (s : GraphStats) : String :=
  "Reference Graph Statistics:\n"
    ++ "  Nodes: " ++ toString s.nodes ++ "\n"
    ++ "  Edges: " ++ toString s.edges ++ "\n"
    ++ String.join (s.byRelation.map fun (r, n) => "    " ++ r.name ++ ": " ++ toString n ++ "\n")

end CrossReference
