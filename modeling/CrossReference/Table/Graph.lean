import CrossReference.Graph.Basic
import CrossReference.Table.Layout

set_option autoImplicit false

/-!
# Tables of a graph

The edges of a graph and its counts, for people to read. A theme says whether relations are
coloured.
-/
namespace CrossReference

inductive Theme
  | plain
  | colored
deriving DecidableEq, Repr

def Relation.terminalColor : Relation → String
  | .reference => "31"
  | .callCallee => "35"
  | .callArgumentBinding => "33"
  | .valueAssignment => "32"
  | .returnArgument => "95"

def Theme.show (theme : Theme) (r : Relation) : String :=
  match theme with
  | .plain => r.name
  | .colored => "\x1b[" ++ r.terminalColor ++ "m" ++ r.name ++ "\x1b[0m"

namespace Graph

def edgeRow (theme : Theme) (e : GraphEdge) : List String :=
  [theme.show e.relation, e.source.text, e.target.text, e.label]

/-- A row for each edge. Without edges there is no table, not even its head. -/
def edgeTable (g : Graph) (theme : Theme) : String :=
  if g.edges.isEmpty then ""
  else Table.render ["Relation", "Source", "Target", "Label"]
    (g.edges.toList.map (edgeRow theme))

end Graph

def GraphStats.table (s : GraphStats) : String :=
  Table.render ["Metric", "Value"]
    (["Nodes", toString s.nodes] :: ["Edges", toString s.edges]
      :: s.byRelation.map fun (r, n) => [r.name, toString n])

end CrossReference
