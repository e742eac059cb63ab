import CrossReference.Graph.Basic

set_option autoImplicit false

/-!
# Graphs as plain data

The form in which a graph is handed out: identities as text, and for each edge its label and colour.
-/
namespace CrossReference

structure NodeData where
  id : String
  label : String
deriving DecidableEq, Repr

structure LinkData where
  source : String
  target : String
  name : String
  color : String
deriving DecidableEq, Repr

structure GraphData where
  nodes : List NodeData
  links : List LinkData
deriving DecidableEq, Repr

def GraphNode.toData (n : GraphNode) : NodeData := ⟨n.id.text, n.label⟩

def GraphEdge.toData (e : GraphEdge) : LinkData := ⟨e.source.text, e.target.text, e.label, e.color⟩

def Graph.toData (g : Graph) : GraphData :=
  ⟨g.nodes.toList.map GraphNode.toData, g.edges.toList.map GraphEdge.toData⟩

end CrossReference
