import CrossReference.Analysis
import CrossReference.Proofs.Analysis.Contained
import CrossReference.Proofs.Graph.History
import CrossReference.Proofs.Lowering.Elements
import Mathlib.Data.List.Forall2

set_option autoImplicit false

/-!
# The wire form of an analysis

What a client may rely on in the plain form of a graph: node texts are distinct, links join nodes
and carry the colours of their relations, and each node text is read as the kind and the span of an
element: `run_wireForm`.
-/
namespace CrossReference

/-- What a parser promises of the kinds and spans of its nodes. -/
def ParseNode.Placed (root : ParseNode) (source : String) : Prop :=
  ∀ n ∈ root.nodes, n.kind ≠ "" ∧ n.span.start ≤ n.span.stop ∧
    n.span.stop.toNat ≤ source.utf8ByteSize

/-- The palette has this colour for the relation. -/
inductive Palette.Paints (p : Palette) : Relation → String → Prop
  | reference : Paints p .reference p.reference
  | callCallee : Paints p .callCallee p.callCallee
  | callArgumentBinding : Paints p .callArgumentBinding p.callArgumentBinding
  | valueAssignment : Paints p .valueAssignment p.valueAssignment
  | returnArgument : Paints p .returnArgument p.returnArgument

theorem Palette.paints_color (p : Palette) (r : Relation) : p.Paints r (p.color r) := by
  cases r <;> constructor

/-- The plain form of a graph that was drawn from the elements of a source. -/
structure WireForm (source : String) (tree : ElementTree) (palette : Palette) (g : Graph) :
    Prop where
  ids_nodup : (g.toData.nodes.map NodeData.id).Nodup
  link_ends : ∀ link ∈ g.toData.links, link.source ∈ g.toData.nodes.map NodeData.id ∧
    link.target ∈ g.toData.nodes.map NodeData.id
  colors : List.Forall₂ (fun edge link => palette.Paints edge.relation link.color)
    g.edges.toList g.toData.links
  ids_read : ∀ n ∈ g.toData.nodes, ∃ (i : Nat) (e : Element) (span : Span),
    tree.element? i = some e ∧ e.position = .at span ∧
      ElementId.parse n.id = .ok ⟨e.kind, .at span⟩ ∧ ElementId.spanOf n.id = .ok span ∧
      span.stop.toNat ≤ source.utf8ByteSize

namespace Analysis

variable {a : Analysis} {source : String}

def drawingOf (a : Analysis) (source : String) : GraphInput :=
  a.graphInput (Program.ofParse source (a.parse source))

theorem drawingOf_inRange (a : Analysis) (source : String) : (a.drawingOf source).InRange :=
  Lowering.lower_inRange source (a.parse source) (some source) a.options

def drawing (a : Analysis) (source : String) : Graph :=
  (a.drawingOf source).tree.walk.foldl (a.drawingOf source).draw Graph.empty

theorem run_eq (a : Analysis) (source : String) :
    a.run source =
      (Program.read a.strict source (a.parse source)).map fun _ => a.drawing source := by
  have built : (a.graphInput (Program.ofParse source (a.parse source))).build? =
      some (a.drawing source) := GraphInput.build?_eq (a.drawingOf_inRange source)
  rw [run, Program.read]
  cases (a.parse source).fault? source with
  | none =>
    simp only [bind, Except.bind, built]
    rfl
  | some fault =>
    cases a.strict with
    | true => rfl
    | false =>
      simp only [bind, Except.bind, if_neg Bool.false_ne_true, built]
      rfl

theorem of_run_eq_ok {g : Graph} (ran : a.run source = .ok g) : g = a.drawing source := by
  rw [run_eq] at ran
  cases read : Program.read a.strict source (a.parse source) with
  | error fault =>
    rw [read] at ran
    cases ran
  | ok program =>
    rw [read] at ran
    exact (Except.ok.inj ran).symm

theorem edges_of_run_eq_ok {g : Graph} (ran : a.run source = .ok g) : g.edges.toList =
    let b := a.drawingOf source
    b.tree.walk.flatMap (b.tree.contribution b.resolve b.options.palette) := by
  rw [of_run_eq_ok ran]
  exact (a.drawingOf source).edges_foldl_draw Graph.empty _

end Analysis

namespace Graph.Holds

variable {g : Graph} {nodes : List GraphNode}

theorem text_mem (h : g.Holds nodes) {n : GraphNode} (hn : n ∈ nodes) :
    n.id.text ∈ g.toData.nodes.map NodeData.id := by
  rw [h.ids_eq]
  apply List.mem_map_of_mem
  rw [id_mem_firstOfEach_iff]
  exact List.mem_map_of_mem hn

theorem exists_node (h : g.Holds nodes) {d : NodeData} (hd : d ∈ g.toData.nodes) :
    ∃ n ∈ nodes, d.id = n.id.text := by
  obtain ⟨n, hn, rfl⟩ := List.mem_map.mp hd
  rw [h.nodes_eq] at hn
  exact ⟨n, firstOfEach_subset nodes hn, rfl⟩

end Graph.Holds

namespace GraphInput

variable {b : GraphInput}

/-- The nodes that come to the graph during the walk. -/
def comers (b : GraphInput) : List GraphNode :=
  (b.tree.walk.flatMap (b.tree.touched b.resolve)).map b.node

theorem foldl_walk_holds (b : GraphInput) :
    (b.tree.walk.foldl b.draw Graph.empty).Holds b.comers :=
  foldl_draw_holds Graph.holds_empty b.tree.walk

theorem edge_of_mem_walk {edge : GraphEdge}
    (h : edge ∈ (b.tree.walk.foldl b.draw Graph.empty).edges.toList) :
    (∃ n ∈ b.comers, edge.source = n.id) ∧ (∃ n ∈ b.comers, edge.target = n.id) ∧
      edge.color = b.options.palette.color edge.relation := by
  rw [edges_foldl_draw] at h
  obtain ⟨i, hi, contributed⟩ := List.mem_flatMap.mp h
  obtain ⟨link, drawn, rfl⟩ := List.mem_map.mp contributed
  have comes (j : Nat) (hj : j ∈ [link.source, link.target]) : b.node j ∈ b.comers := by
    apply List.mem_map_of_mem
    refine List.mem_flatMap.mpr ⟨i, hi, List.mem_append_right _ ?_⟩
    exact List.mem_flatMap.mpr ⟨link, drawn, hj⟩
  exact ⟨⟨b.node link.source, comes _ List.mem_cons_self, rfl⟩,
    ⟨b.node link.target, comes _ (List.mem_cons_of_mem _ List.mem_cons_self), rfl⟩, rfl⟩

theorem exists_element_of_mem_comers (h : b.InRange) {n : GraphNode} (hn : n ∈ b.comers) :
    ∃ i < b.tree.size, n.id = b.tree.idOf i := by
  obtain ⟨i, hi, rfl⟩ := List.mem_map.mp hn
  obtain ⟨j, hj, touched⟩ := List.mem_flatMap.mp hi
  exact ⟨i, touched_lt_size h (ElementTree.lt_size_of_mem_walk h.linked hj) i touched, rfl⟩

end GraphInput

theorem Lowering.exists_node_lower {source : String} {root : ParseNode} {i : Nat}
    (inside : i < (lower source root).tree.size) : ∃ n ∈ root.nodes,
      ∃ e, (lower source root).tree.element? i = some e ∧ e.kind = n.kind ∧
        e.position = .at n.span := by
  obtain ⟨S, hS, rfl⟩ := exists_site_lower inside
  obtain ⟨e, found, outline⟩ := element_lower source hS
  exact ⟨S.node, Site.node_mem_nodes hS, e, found, congrArg Element.Outline.kind outline,
    congrArg Element.Outline.position outline⟩

/-- What a client may rely on in the plain form of the graph of any source. -/
theorem Analysis.run_wireForm {parse : String → ParseNode} {settings : Settings} {source : String}
    {g : Graph} (placed : (parse source).Placed source)
    (ran : (Analysis.ofSettings parse settings).run source = .ok g) :
    WireForm source (Lowering.lower source (parse source)).tree settings.palette g := by
  let b := (Analysis.ofSettings parse settings).drawingOf source
  have inRange : b.InRange := Analysis.drawingOf_inRange _ source
  obtain rfl : g = b.tree.walk.foldl b.draw Graph.empty := of_run_eq_ok ran
  have holds := b.foldl_walk_holds
  constructor
  case ids_nodup => exact holds.ids_nodup
  case link_ends =>
    intro link hlink
    obtain ⟨edge, hedge, rfl⟩ := List.mem_map.mp hlink
    obtain ⟨⟨s, hs, source⟩, ⟨t, ht, target⟩, _⟩ := GraphInput.edge_of_mem_walk hedge
    rw [GraphEdge.toData, source, target]
    exact ⟨holds.text_mem hs, holds.text_mem ht⟩
  case colors =>
    rw [Graph.toData, List.forall₂_map_right_iff, List.forall₂_same]
    intro edge hedge
    rw [GraphEdge.toData, (GraphInput.edge_of_mem_walk hedge).2.2]
    exact settings.palette.paints_color edge.relation
  case ids_read =>
    intro d hd
    obtain ⟨n, hn, text⟩ := holds.exists_node hd
    obtain ⟨i, inside, id⟩ := GraphInput.exists_element_of_mem_comers inRange hn
    obtain ⟨m, hm, e, found, kind, position⟩ := Lowering.exists_node_lower inside
    obtain ⟨nonempty, ordered, fits⟩ := placed m hm
    have here : b.tree.element? i = some e := found
    have same : n.id = ⟨e.kind, .at m.span⟩ := by
      rw [id, ElementTree.idOf, ElementTree.id?, here, Option.map_some, Option.getD_some,
        Element.id, position]
    rw [← kind] at nonempty
    refine ⟨i, e, m.span, found, position, ?_, ?_, fits⟩
    · rw [text, same]
      exact ElementId.parse_text nonempty fun s hs => Option.some.inj hs ▸ ordered
    · rw [text, same]
      exact ElementId.spanOf_text nonempty rfl ordered

def fiveColors : Settings where
  palette := { reference := "navy", callCallee := "teal", callArgumentBinding := "olive"
               valueAssignment := "plum", returnArgument := "gold" }

theorem Analysis.run_wireForm_functionAndCall :
    let source := ParseNode.functionAndCallSource
    ParseNode.functionAndCall.Placed source ∧
      ∃ g, (ofSettings (fun _ => .functionAndCall) fiveColors).run source = .ok g ∧
        WireForm source (Lowering.lower source .functionAndCall).tree fiveColors.palette g ∧
        g.edges.toList.map GraphEdge.relation = [.returnArgument, .reference, .valueAssignment,
          .callCallee, .callArgumentBinding, .reference, .reference] ∧
        g.toData.links.map LinkData.color =
          ["gold", "navy", "plum", "teal", "olive", "navy", "navy"] := by
  intro source
  have placed : ParseNode.functionAndCall.Placed source := by
    unfold ParseNode.Placed
    decide +kernel
  have ran : (ofSettings (fun _ => .functionAndCall) fiveColors).run source =
      .ok ((ofSettings (fun _ => .functionAndCall) fiveColors).drawing source) := by
    rw [run_eq]
    rfl
  refine ⟨placed, _, ran, run_wireForm placed ran, ?_, ?_⟩
  · rw [edges_of_run_eq_ok ran]
    decide +kernel
  · rw [Graph.toData, edges_of_run_eq_ok ran]
    decide +kernel

end CrossReference
