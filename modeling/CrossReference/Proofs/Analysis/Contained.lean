import CrossReference.Program
import CrossReference.Proofs.Element.Walk
import CrossReference.Proofs.Graph.Building
import CrossReference.Proofs.Lowering.Inside
import CrossReference.Proofs.Lowering.ScopeStructure

set_option autoImplicit false

/-!
# Analysis stays inside its tree

Whatever a parser hands over, with faults and with fields that lead anywhere, what lowering writes
down are elements and scopes that there are. So drawing the graph never looks past the end of the
tree: `read_contained`.
-/
namespace CrossReference

/-- All numbers that stand for an element or a scope are those of an element or a scope there is. -/
structure Contained (t : ElementTree) (scopes : ScopeTree) : Prop where
  shapes : t.ShapesInside
  children : ∀ i e, t.element? i = some e → ∀ j ∈ e.children, j < t.size
  parents : ∀ i e, t.element? i = some e → ∀ p, e.parent = some p → p < t.size
  definitions : scopes.DeclaresBelow t.size
  places : ∀ i s, scopes.scopeOf? i = some s → s < scopes.count
  outer : ∀ s p, scopes.parent? s = some p → p < scopes.count

namespace Lowering

theorem lower_inRange (source : String) (root : ParseNode) (text : Option String)
    (options : GraphOptions) : GraphInput.InRange
      ⟨(lower source root).tree, (lower source root).scopes.resolve?, text, options⟩ where
  linked := (lower_records source root).linked
  shapes := (lower_inside source root).shapes
  resolve _ _ _ found := ScopeTree.resolve?_lt (lower_inside source root).declared found

theorem lower_contained (source : String) (root : ParseNode) :
    Contained (lower source root).tree (lower source root).scopes where
  shapes := (lower_inside source root).shapes
  children i e found j hj := by
    apply ElementTree.lt_size_of_mem_childrenOf (lower_records source root).linked (i := i)
    rw [ElementTree.childrenOf_eq found]
    exact Array.mem_toList_iff.mpr hj
  parents i e found p parent := by
    have less := (lower_records source root).linked.parent_lt i p (by
      rw [ElementTree.parent?, found]
      exact parent)
    exact Nat.lt_trans less (ElementTree.lt_size_of_element found)
  definitions := (lower_inside source root).declared
  places i s place := by
    rw [(lower_records source root).places, Option.map_eq_some_iff] at place
    obtain ⟨S, found, rfl⟩ := place
    exact scope_lt_count source (List.mem_of_getElem? found)
  outer s p parent := by
    obtain ⟨record, found, up⟩ := Option.bind_eq_some_iff.mp parent
    rw [scopes_lower] at found
    rcases List.mem_cons.mp (List.mem_of_getElem? found) with module | opened
    · rw [module] at up
      cases up
    · obtain ⟨S, hS, made⟩ := List.mem_filterMap.mp opened
      obtain ⟨kind, _, rfl⟩ := Option.map_eq_some_iff.mp made
      rw [← Option.some.inj up]
      exact scope_lt_count source hS

theorem lower_searched (source : String) (root : ParseNode) :
    (lower source root).tree.Searched := (lower_records source root).linked.searched

end Lowering

namespace Program

theorem eq_ofParse {strict : Bool} {source : String} {root : ParseNode} {p : Program}
    (h : read strict source root = .ok p) : p = ofParse source root := by
  rw [read] at h
  split at h
  · split at h
    · cases h
    · exact (Except.ok.inj h).symm
  · exact (Except.ok.inj h).symm

/-- A program that is read, with or without faults, holds no number that leads outside of it, and
    every graph drawn from it is drawn to the end. -/
theorem read_contained {strict : Bool} {source : String} {root : ParseNode} {p : Program}
    (h : read strict source root = .ok p) :
    Contained p.tree p.scopes ∧ p.tree.Searched ∧
      ∀ (text : Option String) (options : GraphOptions),
        (GraphInput.build? ⟨p.tree, p.scopes.resolve?, text, options⟩).isSome := by
  rw [eq_ofParse h]
  refine ⟨Lowering.lower_contained source root, Lowering.lower_searched source root, ?_⟩
  intro text options
  exact Option.isSome_of_eq_some
    (GraphInput.build?_eq (Lowering.lower_inRange source root text options))

end Program

/-- What is left of `var = f()` when the name is missing, with a callee that is nowhere in
    the tree. -/
def ParseNode.strayCallee : ParseNode :=
  let head (number : Nat) (kind : String) (start stop : UInt64) (isError : Bool) : NodeHead :=
    ⟨number, kind, ⟨start, stop⟩, true, false, isError, false, true⟩
  let callee : ParseNode := .mk (head 9 "identifier" 6 7 false) [] []
  let call : ParseNode := .mk (head 3 "call_expression" 6 9 false) [(.function, callee)] []
  let declarator : ParseNode :=
    .mk (head 2 "variable_declarator" 4 9 false) [(.value, call)]
      [.mk (head 4 "ERROR" 4 5 true) [] [], call]
  .mk (head 0 "program" 0 9 false) []
    [.mk (head 1 "variable_declaration" 0 9 false) [] [declarator]]

theorem Program.read_contained_strayCallee :
    ParseNode.strayCallee.fault? "var = f()" ≠ none ∧
      ∃ p, read false "var = f()" ParseNode.strayCallee = .ok p ∧ Contained p.tree p.scopes ∧
        (GraphInput.build? ⟨p.tree, p.scopes.resolve?, none, {}⟩).isSome := by
  have ran : read false "var = f()" ParseNode.strayCallee =
      .ok (ofParse "var = f()" ParseNode.strayCallee) := rfl
  obtain ⟨contained, _, drawn⟩ := read_contained ran
  exact ⟨nofun, _, ran, contained, drawn none {}⟩

end CrossReference
