import CrossReference.Proofs.Analysis.WireForm
import CrossReference.Proofs.Graph.Order

set_option autoImplicit false

/-!
# What is shown and what is there

Labels, colours and the port are for whoever looks at a graph. They decide neither which elements
and relations are in it nor in what order: `run_presentation`.
-/
namespace CrossReference

def GraphEdge.recolor (palette : Palette) (edge : GraphEdge) : GraphEdge :=
  { edge with color := palette.color edge.relation }

/-- Two graphs that are one up to what the settings choose to show of it. -/
structure Graph.Redrawn (s s' : Settings) (g g' : Graph) : Prop where
  ids_eq : g'.nodes.toList.map GraphNode.id = g.nodes.toList.map GraphNode.id
  edges_eq : g'.edges.toList = g.edges.toList.map (GraphEdge.recolor s'.palette)
  edges_eq_of_palette : s.palette = s'.palette → g'.edges = g.edges
  label_eq_text : s.analysis.label = .id → ∀ n ∈ g.nodes.toList, n.label = n.id.text
  label_eq_text' : s'.analysis.label = .id → ∀ n ∈ g'.nodes.toList, n.label = n.id.text

namespace GraphInput

theorem map_id_comers (b : GraphInput) : b.comers.map GraphNode.id =
    (b.tree.walk.flatMap (b.tree.touched b.resolve)).map b.tree.idOf := by
  rw [comers, List.map_map]
  rfl

def drawing (b : GraphInput) : Graph := b.tree.walk.foldl b.draw Graph.empty

theorem edges_drawing (b : GraphInput) : b.drawing.edges.toList =
    b.tree.walk.flatMap (b.tree.contribution b.resolve b.options.palette) :=
  edges_foldl_draw b Graph.empty b.tree.walk

variable (b : GraphInput) (options : GraphOptions)

theorem ids_drawing_options : ({ b with options }).drawing.nodes.toList.map GraphNode.id =
    b.drawing.nodes.toList.map GraphNode.id := by
  -- which nodes stay is decided by their identities alone
  rw [drawing, drawing, (foldl_walk_holds _).nodes_eq, (foldl_walk_holds _).nodes_eq,
    map_id_firstOfEach, map_id_firstOfEach, map_id_comers, map_id_comers]

theorem edges_drawing_options : ({ b with options }).drawing.edges.toList =
    b.drawing.edges.toList.map (GraphEdge.recolor options.palette) := by
  rw [edges_drawing, edges_drawing, List.map_flatMap]
  apply List.flatMap_congr
  intro i _
  rw [ElementTree.contribution, ElementTree.contribution, List.map_map]
  rfl

theorem edges_drawing_of_palette (same : b.options.palette = options.palette) :
    ({ b with options }).drawing.edges = b.drawing.edges := by
  apply Array.toList_inj.mp
  rw [edges_drawing, edges_drawing, same]

theorem label_drawing {b : GraphInput} (h : b.InRange) (mode : b.options.labels = .id) :
    ∀ n ∈ b.drawing.nodes.toList, n.label = n.id.text := by
  intro n hn
  rw [drawing, b.foldl_walk_holds.nodes_eq] at hn
  obtain ⟨i, hi, rfl⟩ := List.mem_map.mp (firstOfEach_subset _ hn)
  obtain ⟨j, hj, touched⟩ := List.mem_flatMap.mp hi
  have inside := touched_lt_size h (ElementTree.lt_size_of_mem_walk h.linked hj) i touched
  rw [node_eq inside]
  simp only [labelOf, mode]

end GraphInput

namespace Analysis

variable (parse : String → ParseNode) {s s' : Settings} (source : String)

theorem drawing_redrawn :
    Graph.Redrawn s s' ((ofSettings parse s).drawing source)
      ((ofSettings parse s').drawing source) := by
  let b := (ofSettings parse s).drawingOf source
  have edges := b.edges_drawing_options s'.graphOptions
  constructor
  case ids_eq => exact b.ids_drawing_options s'.graphOptions
  case edges_eq => exact edges
  case edges_eq_of_palette => exact b.edges_drawing_of_palette s'.graphOptions
  case label_eq_text =>
    exact GraphInput.label_drawing ((ofSettings parse s).drawingOf_inRange source)
  case label_eq_text' =>
    exact GraphInput.label_drawing ((ofSettings parse s').drawingOf_inRange source)

/-- Under two settings that are equally strict a source is refused for the same reason, or its two
    graphs are one up to labels and colours. -/
theorem run_presentation (strict : s.analysis.strict = s'.analysis.strict) :
    (∃ fault, (ofSettings parse s).run source = .error fault ∧
      (ofSettings parse s').run source = .error fault) ∨
    ∃ g g', (ofSettings parse s).run source = .ok g ∧
      (ofSettings parse s').run source = .ok g' ∧ Graph.Redrawn s s' g g' := by
  have read : Program.read (ofSettings parse s).strict source (parse source) =
      Program.read (ofSettings parse s').strict source (parse source) :=
    congrArg (Program.read · source (parse source)) strict
  have ran := (ofSettings parse s).run_eq source
  have ran' := (ofSettings parse s').run_eq source
  cases outcome : Program.read (ofSettings parse s').strict source (parse source) with
  | error fault =>
    left
    refine ⟨fault, ran.trans ?_, ran'.trans ?_⟩
    · exact congrArg (Except.map _) (read.trans outcome)
    · exact congrArg (Except.map _) outcome
  | ok program =>
    right
    refine ⟨_, _, ran.trans ?_, ran'.trans ?_, drawing_redrawn parse source⟩
    · exact congrArg (Except.map _) (read.trans outcome)
    · exact congrArg (Except.map _) outcome

def excerptsInNavy : Settings where
  analysis := { label := .excerpt, excerptWidth := 3 }
  palette := { reference := "navy" }
  server := { port := 80 }

theorem run_presentation_identityArrow :
    ({} : Settings).analysis.strict = excerptsInNavy.analysis.strict ∧
    ∃ g g', (ofSettings (fun _ => ParseNode.identityArrow) {}).run "(x) => x" = .ok g ∧
      (ofSettings (fun _ => ParseNode.identityArrow) excerptsInNavy).run "(x) => x" = .ok g' ∧
      Graph.Redrawn {} excerptsInNavy g g' ∧
      g.edges.toList.map GraphEdge.color = ["red"] ∧
      g'.edges.toList.map GraphEdge.color = ["navy"] := by
  have strict : ({} : Settings).analysis.strict = excerptsInNavy.analysis.strict := rfl
  rcases run_presentation (fun _ => ParseNode.identityArrow) "(x) => x" strict with
    ⟨fault, refused, _⟩ | ⟨g, g', ran, ran', redrawn⟩
  · rw [run_eq] at refused
    cases refused
  · refine ⟨strict, g, g', ran, ran', redrawn, ?_, ?_⟩
    · rw [edges_of_run_eq_ok ran]
      decide +kernel
    · rw [edges_of_run_eq_ok ran']
      decide +kernel

end Analysis
end CrossReference
