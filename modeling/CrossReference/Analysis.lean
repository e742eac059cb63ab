import CrossReference.Graph.Data
import CrossReference.Program
import CrossReference.Settings

set_option autoImplicit false

/-!
# Analysis

From a source to its graph. The parser is given; runs share nothing with each other.
-/
namespace CrossReference

structure Analysis where
  parse : String → ParseNode
  strict : Bool := true
  options : GraphOptions := {}

namespace Analysis

def ofSettings (parse : String → ParseNode) (settings : Settings) : Analysis :=
  { parse, strict := settings.analysis.strict, options := settings.graphOptions }

def graphInput (a : Analysis) (p : Program) : GraphInput :=
  { tree := p.tree, resolve := p.scopes.resolve?, source := some p.source, options := a.options }

def run (a : Analysis) (source : String) : Except Error Graph := do
  let program ← Program.read a.strict source (a.parse source)
  match (a.graphInput program).build? with
  | some graph => .ok graph
  | none => .error .outsideTree

def quick (parse : String → ParseNode) (source : String) : Except Error GraphData :=
  (run { parse } source).map Graph.toData

end Analysis
end CrossReference
