import CrossReference.Graph.Data
import CrossReference.Json.Read
import CrossReference.Json.Record
import CrossReference.Settings

set_option autoImplicit false

/-!
# JSON forms

How each type of the library is written as JSON and read back.
-/
namespace CrossReference

def Span.toJson (s : Span) : Json :=
  .record [("start", .natural s.start.toNat), ("end", .natural s.stop.toNat)]

def Span.ofJson? (v : Json) : Option Span := do
  let fields ← v.fields? ["start", "end"]
  let offset (i : Nat) : Option UInt64 :=
    (Json.required (Json.naturalBelow? UInt64.size) (fields.getD i none)).map UInt64.ofNat
  return ⟨← offset 0, ← offset 1⟩

def ElementId.toJson (id : ElementId) : Json := .text id.text

def ElementId.ofJson? (v : Json) : Option ElementId := do (ElementId.parse (← v.text?)).toOption

def Relation.toJson (r : Relation) : Json := .text r.name

def Relation.ofJson? (v : Json) : Option Relation := v.choice?.bind Relation.ofName?

def LabelMode.name : LabelMode → String
  | .id => "id"
  | .excerpt => "excerpt"

def LabelMode.ofName? : String → Option LabelMode
  | "id" => some .id
  | "excerpt" => some .excerpt
  | _ => none

def LabelMode.toJson (mode : LabelMode) : Json := .text mode.name

def LabelMode.ofJson? (v : Json) : Option LabelMode := v.choice?.bind LabelMode.ofName?

def GraphNode.toJson (n : GraphNode) : Json :=
  .record [("id", n.id.toJson), ("label", .text n.label)]

def GraphNode.ofJson? (v : Json) : Option GraphNode := do
  let fields ← v.fields? ["id", "label"]
  return ⟨← Json.required ElementId.ofJson? (fields.getD 0 none),
    ← Json.required Json.text? (fields.getD 1 none)⟩

def GraphEdge.toJson (e : GraphEdge) : Json :=
  .record [("source", e.source.toJson), ("target", e.target.toJson),
    ("relation", e.relation.toJson), ("label", .text e.label), ("color", .text e.color)]

def GraphEdge.ofJson? (v : Json) : Option GraphEdge := do
  let fields ← v.fields? ["source", "target", "relation", "label", "color"]
  return ⟨← Json.required ElementId.ofJson? (fields.getD 0 none),
    ← Json.required ElementId.ofJson? (fields.getD 1 none),
    ← Json.required Relation.ofJson? (fields.getD 2 none),
    ← Json.required Json.text? (fields.getD 3 none),
    ← Json.required Json.text? (fields.getD 4 none)⟩

def NodeData.toJson (n : NodeData) : Json := .record [("id", .text n.id), ("label", .text n.label)]

def NodeData.ofJson? (v : Json) : Option NodeData := do
  let fields ← v.fields? ["id", "label"]
  return ⟨← Json.required Json.text? (fields.getD 0 none),
    ← Json.required Json.text? (fields.getD 1 none)⟩

def LinkData.toJson (l : LinkData) : Json :=
  .record [("source", .text l.source), ("target", .text l.target), ("name", .text l.name),
    ("color", .text l.color)]

def LinkData.ofJson? (v : Json) : Option LinkData := do
  let fields ← v.fields? ["source", "target", "name", "color"]
  return ⟨← Json.required Json.text? (fields.getD 0 none),
    ← Json.required Json.text? (fields.getD 1 none),
    ← Json.required Json.text? (fields.getD 2 none),
    ← Json.required Json.text? (fields.getD 3 none)⟩

def GraphData.toJson (d : GraphData) : Json :=
  .record [("nodes", .array (d.nodes.map NodeData.toJson)),
    ("links", .array (d.links.map LinkData.toJson))]

def GraphData.ofJson? (v : Json) : Option GraphData := do
  let fields ← v.fields? ["nodes", "links"]
  let nodes ← Json.required Json.items? (fields.getD 0 none)
  let links ← Json.required Json.items? (fields.getD 1 none)
  return ⟨← nodes.mapM NodeData.ofJson?, ← links.mapM LinkData.ofJson?⟩

def GraphData.render (d : GraphData) : String := d.toJson.toPretty

def GraphStats.toJson (s : GraphStats) : Json :=
  .record [("total_nodes", .natural s.nodes), ("total_edges", .natural s.edges),
    ("by_relation", .array (s.byRelation.map fun (r, n) => .array [r.toJson, .natural n]))]

def Palette.toJson (p : Palette) : Json :=
  .record [("reference", .text p.reference), ("call_callee", .text p.callCallee),
    ("call_argument_binding", .text p.callArgumentBinding),
    ("value_assignment", .text p.valueAssignment), ("return_argument", .text p.returnArgument)]

def Palette.ofJson? (v : Json) : Option Palette := do
  let fields ← v.fields?
    ["reference", "call_callee", "call_argument_binding", "value_assignment", "return_argument"]
  let color (i : Nat) (r : Relation) : Option String :=
    Json.optional r.defaultColor Json.text? (fields.getD i none)
  return ⟨← color 0 .reference, ← color 1 .callCallee, ← color 2 .callArgumentBinding,
    ← color 3 .valueAssignment, ← color 4 .returnArgument⟩

def AnalysisSettings.toJson (s : AnalysisSettings) : Json :=
  .record [("strict", .bool s.strict), ("label", s.label.toJson),
    ("excerpt_width", .natural s.excerptWidth.toNat)]

def AnalysisSettings.ofJson? (v : Json) : Option AnalysisSettings := do
  let fields ← v.fields? ["strict", "label", "excerpt_width"]
  let plain : AnalysisSettings := {}
  return ⟨← Json.optional plain.strict Json.bool? (fields.getD 0 none),
    ← Json.optional plain.label LabelMode.ofJson? (fields.getD 1 none),
    ← Json.optional plain.excerptWidth
      (fun v => (v.naturalBelow? UInt64.size).map UInt64.ofNat) (fields.getD 2 none)⟩

def ServerSettings.toJson (s : ServerSettings) : Json := .record [("port", .natural s.port.toNat)]

def ServerSettings.ofJson? (v : Json) : Option ServerSettings := do
  let fields ← v.fields? ["port"]
  let plain : ServerSettings := {}
  return ⟨← Json.optional plain.port
    (fun v => (v.naturalBelow? UInt16.size).map UInt16.ofNat) (fields.getD 0 none)⟩

def Settings.toJson (s : Settings) : Json :=
  .record [("analysis", s.analysis.toJson), ("palette", s.palette.toJson),
    ("server", s.server.toJson)]

def Settings.ofJson? (v : Json) : Option Settings := do
  let fields ← v.fields? ["analysis", "palette", "server"]
  return ⟨← Json.optional {} AnalysisSettings.ofJson? (fields.getD 0 none),
    ← Json.optional {} Palette.ofJson? (fields.getD 1 none),
    ← Json.optional {} ServerSettings.ofJson? (fields.getD 2 none)⟩

end CrossReference
