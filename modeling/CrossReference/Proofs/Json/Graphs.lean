import CrossReference.Json.Forms
import CrossReference.Proofs.ElementId.Grammar
import CrossReference.Proofs.Json.Records

set_option autoImplicit false

/-!
# Graphs in JSON

What is handed out of a graph is read back whatever texts it holds. Nodes and edges with identities
are read back if their identities can be: `graphs_roundTrip`.
-/
namespace CrossReference

open Json

theorem Relation.ofName?_name (r : Relation) : ofName? r.name = some r := by
  cases r <;> rfl

theorem Relation.ofJson?_toJson (r : Relation) : ofJson? r.toJson = some r := by
  have name := text?_text r.name
  rw [ofJson?, show r.toJson.choice? = some r.name from name, Option.bind_some, ofName?_name]

namespace ElementId

variable {id other : ElementId} {v : Json}

theorem ofJson?_toJson (id : ElementId) : ofJson? id.toJson = (parse id.text).toOption := by
  rw [ofJson?, toJson, text?_text]
  rfl

theorem ofJson?_toJson_eq_some_iff : ofJson? id.toJson = some other ↔ id.Proper ∧ id = other := by
  rw [ofJson?_toJson]
  by_cases proper : id.Proper
  · rw [parse_text_of_proper proper]
    simp [Except.toOption, proper]
  · obtain ⟨fault, refused⟩ := parse_text_of_not_proper proper
    rw [refused]
    simp [Except.toOption, proper]

theorem proper_of_ofJson? (h : ofJson? v = some id) : id.Proper := by
  obtain ⟨text, _, read⟩ := Option.bind_eq_some_iff.mp h
  cases parsed : parse text with
  | error fault =>
    rw [parsed] at read
    cases read
  | ok known =>
    rw [parsed] at read
    cases read
    exact (parse_eq_ok_iff.mp parsed).proper

end ElementId

theorem NodeData.ofJson?_toJson (n : NodeData) : ofJson? n.toJson = some n := by
  have fields : n.toJson.fields? ["id", "label"] = some [some (text n.id), some (text n.label)] :=
    fields?_record (by decide) rfl
  rw [ofJson?, fields]
  simp [required, text?_text]

theorem LinkData.ofJson?_toJson (l : LinkData) : ofJson? l.toJson = some l := by
  have fields : l.toJson.fields? ["source", "target", "name", "color"] = some
      [some (text l.source), some (text l.target), some (text l.name), some (text l.color)] :=
    fields?_record (by decide) rfl
  rw [ofJson?, fields]
  simp [required, text?_text]

theorem GraphData.ofJson?_toJson (d : GraphData) : ofJson? d.toJson = some d := by
  have fields : d.toJson.fields? ["nodes", "links"] = some
      [some (.array (d.nodes.map NodeData.toJson)), some (.array (d.links.map LinkData.toJson))] :=
    fields?_record (by decide) rfl
  have nodes : (d.nodes.map NodeData.toJson).mapM NodeData.ofJson? = some d.nodes :=
    mapM_map fun n _ => n.ofJson?_toJson
  have links : (d.links.map LinkData.toJson).mapM LinkData.ofJson? = some d.links :=
    mapM_map fun l _ => l.ofJson?_toJson
  rw [ofJson?, fields]
  simp [required, items?, nodes, links]

theorem NodeData.textual (n : NodeData) : n.toJson.Textual :=
  textual_record (show FieldNames ["id", "label"] by decide) rfl (by simp [textual_text])

theorem LinkData.textual (l : LinkData) : l.toJson.Textual :=
  textual_record (show FieldNames ["source", "target", "name", "color"] by decide) rfl
    (by simp [textual_text])

theorem GraphData.textual (d : GraphData) : d.toJson.Textual := by
  refine textual_record (show FieldNames ["nodes", "links"] by decide) rfl ?_
  simp only [List.forall_mem_cons, List.not_mem_nil, false_imp_iff, implies_true, and_true]
  refine ⟨.array ?_, .array ?_⟩
  · exact List.forall_mem_map.mpr fun n _ => n.textual
  · exact List.forall_mem_map.mpr fun l _ => l.textual

def GraphNode.Proper (n : GraphNode) : Prop := n.id.Proper

def GraphEdge.Proper (e : GraphEdge) : Prop := e.source.Proper ∧ e.target.Proper

theorem GraphNode.ofJson?_toJson_eq_some_iff {n other : GraphNode} :
    ofJson? n.toJson = some other ↔ n.Proper ∧ n = other := by
  have fields : n.toJson.fields? ["id", "label"] = some [some n.id.toJson, some (text n.label)] :=
    fields?_record (by decide) rfl
  rw [ofJson?, fields]
  simp [required, text?_text, Option.bind_eq_some_iff, ElementId.ofJson?_toJson_eq_some_iff, Proper]

theorem GraphEdge.ofJson?_toJson_eq_some_iff {e other : GraphEdge} :
    ofJson? e.toJson = some other ↔ e.Proper ∧ e = other := by
  have fields : e.toJson.fields? ["source", "target", "relation", "label", "color"] =
      some [some e.source.toJson, some e.target.toJson, some e.relation.toJson, some (text e.label),
        some (text e.color)] :=
    fields?_record (by decide) rfl
  rw [ofJson?, fields]
  simp [required, text?_text, Relation.ofJson?_toJson, Option.bind_eq_some_iff,
    ElementId.ofJson?_toJson_eq_some_iff, Proper, and_assoc]

theorem GraphNode.textual (n : GraphNode) : n.toJson.Textual :=
  textual_record (show FieldNames ["id", "label"] by decide) rfl
    (by simp [textual_text, ElementId.toJson])

theorem GraphEdge.textual (e : GraphEdge) : e.toJson.Textual :=
  textual_record (show FieldNames ["source", "target", "relation", "label", "color"] by decide) rfl
    (by simp [textual_text, ElementId.toJson, Relation.toJson])

theorem proper_of_required {field : Option Json} {id : ElementId}
    (h : required ElementId.ofJson? field = some id) : id.Proper := by
  obtain ⟨v, _, read⟩ := Option.bind_eq_some_iff.mp h
  exact ElementId.proper_of_ofJson? read

theorem GraphNode.proper_of_ofJson? {v : Json} {n : GraphNode} (h : ofJson? v = some n) :
    n.Proper := by
  obtain ⟨fields, _, h⟩ := Option.bind_eq_some_iff.mp h
  obtain ⟨id, read, h⟩ := Option.bind_eq_some_iff.mp h
  obtain ⟨label, _, same⟩ := Option.bind_eq_some_iff.mp h
  cases same
  exact proper_of_required read

theorem GraphEdge.proper_of_ofJson? {v : Json} {e : GraphEdge} (h : ofJson? v = some e) :
    e.Proper := by
  obtain ⟨fields, _, h⟩ := Option.bind_eq_some_iff.mp h
  obtain ⟨source, sourceRead, h⟩ := Option.bind_eq_some_iff.mp h
  obtain ⟨target, targetRead, h⟩ := Option.bind_eq_some_iff.mp h
  obtain ⟨relation, _, h⟩ := Option.bind_eq_some_iff.mp h
  obtain ⟨label, _, h⟩ := Option.bind_eq_some_iff.mp h
  obtain ⟨color, _, same⟩ := Option.bind_eq_some_iff.mp h
  cases same
  exact ⟨proper_of_required sourceRead, proper_of_required targetRead⟩

theorem graphs_roundTrip :
    (∀ d : GraphData, decode? GraphData.ofJson? d.render = some d) ∧
      RoundTrips GraphData.toJson GraphData.ofJson? (fun _ => True) ∧
      RoundTrips GraphNode.toJson GraphNode.ofJson? GraphNode.Proper ∧
      RoundTrips GraphEdge.toJson GraphEdge.ofJson? GraphEdge.Proper ∧
      RoundTrips ElementId.toJson ElementId.ofJson? ElementId.Proper := by
  have data : RoundTrips GraphData.toJson GraphData.ofJson? (fun _ => True) := by
    refine .of_values GraphData.textual (fun d other => ?_) fun _ _ _ => trivial
    simp [GraphData.ofJson?_toJson]
  refine ⟨fun d => data.read d d.render trivial (.inr rfl), data, ?node, ?edge, ?id⟩
  case node =>
    exact .of_values GraphNode.textual (fun _ _ => GraphNode.ofJson?_toJson_eq_some_iff)
      fun _ _ => GraphNode.proper_of_ofJson?
  case edge =>
    exact .of_values GraphEdge.textual (fun _ _ => GraphEdge.ofJson?_toJson_eq_some_iff)
      fun _ _ => GraphEdge.proper_of_ofJson?
  case id =>
    exact .of_values (fun id => textual_text id.text)
      (fun _ _ => ElementId.ofJson?_toJson_eq_some_iff) fun _ _ => ElementId.proper_of_ofJson?

/-- An identity with a sign and a superfluous zero is written without them. -/
example : (decode? ElementId.ofJson? "\"a-+1:02\"").map (fun id => id.toJson.toCompact) =
    some "\"a-1:2\"" := by decide +kernel

end CrossReference
