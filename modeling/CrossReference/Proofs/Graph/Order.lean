import CrossReference.Proofs.Graph.Building
import Mathlib.Data.List.Nodup

set_option autoImplicit false

/-!
# The order of visits

What an element draws does not depend on what was drawn before, and elements with one identity have
one label. So the elements may be visited in any order: `visitAll?_perm`.
-/
namespace CrossReference

theorem mem_firstOfEach_iff {nodes : List GraphNode}
    (alike : ∀ n ∈ nodes, ∀ m ∈ nodes, n.id = m.id → n = m) {n : GraphNode} :
    n ∈ firstOfEach nodes ↔ n ∈ nodes := by
  refine ⟨fun first => firstOfEach_subset nodes first, fun inside => ?_⟩
  have known := (id_mem_firstOfEach_iff nodes n.id).mpr (List.mem_map_of_mem inside)
  obtain ⟨m, first, same⟩ := List.mem_map.mp known
  rwa [← alike m (firstOfEach_subset nodes first) n inside same]

theorem perm_firstOfEach {a b : List GraphNode} (perm : a.Perm b)
    (alike : ∀ n ∈ a, ∀ m ∈ a, n.id = m.id → n = m) : (firstOfEach a).Perm (firstOfEach b) := by
  have distinct (nodes : List GraphNode) : (firstOfEach nodes).Nodup :=
    List.Nodup.of_map GraphNode.id (nodup_firstOfEach nodes)
  apply (List.perm_ext_iff_of_nodup (distinct a) (distinct b)).mpr
  intro n
  rw [mem_firstOfEach_iff alike, mem_firstOfEach_iff, perm.mem_iff]
  intro n hn m hm
  exact alike n (perm.mem_iff.mpr hn) m (perm.mem_iff.mpr hm)

namespace GraphInput

variable {b : GraphInput} {i : Nat}

def labelOf (b : GraphInput) (id : ElementId) : String :=
  match b.options.labels, b.source with
  | .excerpt, some source =>
    match id.span?.bind fun span => Text.slice? source span.start.toNat span.stop.toNat with
    | some text => Text.excerpt text b.options.excerptWidth.toNat
    | none => id.text
  | _, _ => id.text

theorem label?_eq_map (b : GraphInput) (i : Nat) : b.label? i = (b.tree.id? i).map b.labelOf := by
  rw [label?, ElementTree.id?]
  cases found : b.tree.element? i with
  | none => rfl
  | some e =>
    simp only [labelOf, ElementTree.text?, found, Option.bind_eq_bind, Option.bind_some,
      Option.pure_def, Option.map_some]
    cases b.options.labels with
    | id => rfl
    | excerpt =>
      cases b.source with
      | none => rfl
      | some source =>
        simp only
        generalize (e.id.span?.bind fun span =>
          Text.slice? source span.start.toNat span.stop.toNat) = text
        cases text <;> rfl

theorem node_eq (inside : i < b.tree.size) :
    b.node i = ⟨b.tree.idOf i, b.labelOf (b.tree.idOf i)⟩ := by
  rw [node, label?_eq_map, id?_eq inside]
  rfl

theorem alike_of_touched (h : b.InRange) {order : List Nat}
    (inside : ∀ i ∈ order, i < b.tree.size) :
    let nodes := (order.flatMap (b.tree.touched b.resolve)).map b.node
    ∀ n ∈ nodes, ∀ m ∈ nodes, n.id = m.id → n = m := by
  intro nodes n hn m hm same
  have known {n : GraphNode} (hn : n ∈ nodes) : n = ⟨n.id, b.labelOf n.id⟩ := by
    obtain ⟨j, hj, rfl⟩ := List.mem_map.mp hn
    obtain ⟨i, hi, touched⟩ := List.mem_flatMap.mp hj
    rw [node_eq (touched_lt_size h (inside i hi) j touched)]
  rw [known hn, known hm, same]

/-- Visiting the elements in another order than that of the walk gives the same nodes, each with the
    same label, and the same edges as often. -/
theorem visitAll?_perm (built : b.tree.Built) (shapes : b.tree.ShapesInside)
    (resolve : ∀ (i : Nat) (name : String) (d : Nat), b.resolve i name = some d → d < b.tree.size)
    {order : List Nat} (perm : order.Perm b.tree.walk) :
    ∃ g g', b.build? = some g ∧ b.visitAll? Graph.empty order = some g' ∧
      g'.nodes.toList.Perm g.nodes.toList ∧ g'.edges.toList.Perm g.edges.toList := by
  have h : b.InRange := ⟨built.linked, shapes, resolve⟩
  have inside : ∀ i ∈ order, i < b.tree.size := fun i hi =>
    ElementTree.lt_size_of_mem_walk h.linked (perm.mem_iff.mp hi)
  refine ⟨_, _, build?_eq h, visitAll?_eq h _ inside, ?_, ?_⟩
  · rw [(foldl_draw_holds Graph.holds_empty order).nodes_eq,
      (foldl_draw_holds Graph.holds_empty b.tree.walk).nodes_eq]
    exact perm_firstOfEach ((perm.flatMap_right _).map _) (alike_of_touched h inside)
  · rw [edges_foldl_draw, edges_foldl_draw]
    exact perm.flatMap_right _

/-- A variable and two uses at one place, which have one identity. -/
def usesAtOnePlace : GraphInput where
  tree := ((((ElementTree.new "program" (some ⟨0, 8⟩)).push
    0 "variable_declarator" (some ⟨4, 5⟩) (.declarator 2 none)).push
    1 "identifier" (some ⟨4, 5⟩) (.identifier "x" .declaration)).push
    0 "identifier" (some ⟨7, 8⟩) (.identifier "x" .read)).push
    0 "identifier" (some ⟨7, 8⟩) (.identifier "y" .read)
  resolve _ name := if name = "x" then some 1 else if name = "y" then some 2 else none
  source := some "var x; x"
  options := { labels := .excerpt }

theorem built_usesAtOnePlace : usesAtOnePlace.tree.Built := by
  dsimp only [usesAtOnePlace]
  refine ((((ElementTree.Built.new _ _).push 0 ?_ _ _ _).push 1 ?_ _ _ _).push 0 ?_ _ _ _).push
    0 ?_ _ _ _
  all_goals decide

theorem shapesInside_usesAtOnePlace : usesAtOnePlace.tree.ShapesInside := by decide

theorem resolve_usesAtOnePlace (i : Nat) (name : String) (d : Nat)
    (found : usesAtOnePlace.resolve i name = some d) : d < usesAtOnePlace.tree.size := by
  dsimp only [usesAtOnePlace] at found
  split at found
  · cases found
    decide
  · split at found
    · cases found
      decide
    · cases found

theorem visitAll?_perm_reverse : usesAtOnePlace.tree.Built ∧ usesAtOnePlace.tree.ShapesInside ∧
    (∀ (i : Nat) (name : String) (d : Nat), usesAtOnePlace.resolve i name = some d →
      d < usesAtOnePlace.tree.size) ∧
    [4, 3, 2, 1, 0].Perm usesAtOnePlace.tree.walk ∧
    usesAtOnePlace.tree.id? 3 = usesAtOnePlace.tree.id? 4 ∧
    ∃ g g', usesAtOnePlace.build? = some g ∧
      usesAtOnePlace.visitAll? Graph.empty [4, 3, 2, 1, 0] = some g' ∧
      g'.nodes.toList.Perm g.nodes.toList ∧ g'.edges.toList.Perm g.edges.toList := by
  have perm : [4, 3, 2, 1, 0].Perm usesAtOnePlace.tree.walk := by decide
  exact ⟨built_usesAtOnePlace, shapesInside_usesAtOnePlace, resolve_usesAtOnePlace, perm, by decide,
    visitAll?_perm built_usesAtOnePlace shapesInside_usesAtOnePlace resolve_usesAtOnePlace perm⟩

end GraphInput
end CrossReference
