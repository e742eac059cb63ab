import CrossReference.Graph.Basic
import CrossReference.Proofs.ElementId.Text
import Mathlib.Data.List.Basic
import Mathlib.Data.List.Induction

set_option autoImplicit false

/-!
# The nodes of a graph

A graph finds a node by the text of its identity. Texts tell identities apart, so each identity is
in the graph once, with the label it first came with.
-/
namespace CrossReference

section
variable {α β : Type} [DecidableEq α] [DecidableEq β]

theorem eraseDups_concat (list : List α) (a : α) :
    (list ++ [a]).eraseDups = if a ∈ list then list.eraseDups else list.eraseDups ++ [a] := by
  rw [List.eraseDups_append, List.cons_removeAll]
  by_cases known : a ∈ list
  · simp [known]
  · simp [known, List.eraseDups_cons]

theorem eraseDups_map_of_injective {f : α → β} (injective : Function.Injective f)
    (list : List α) : (list.map f).eraseDups = list.eraseDups.map f := by
  induction list using List.reverseRecOn with
  | nil => rfl
  | append_singleton list a ih =>
    rw [List.map_append, List.map_singleton, eraseDups_concat, eraseDups_concat, ih]
    simp only [List.mem_map_of_injective injective]
    split
    · rfl
    · rw [List.map_append, List.map_singleton]

end

/-- Of the nodes with the same identity only the first stays. -/
def firstOfEach : List GraphNode → List GraphNode
  | [] => []
  | n :: rest => n :: (firstOfEach rest).filter fun other => other.id ≠ n.id

theorem firstOfEach_concat (nodes : List GraphNode) (n : GraphNode) :
    firstOfEach (nodes ++ [n]) =
      if n.id ∈ nodes.map GraphNode.id then firstOfEach nodes else firstOfEach nodes ++ [n] := by
  induction nodes with
  | nil => rfl
  | cons first rest ih =>
    rw [List.cons_append, firstOfEach, ih, List.map_cons, firstOfEach]
    by_cases later : n.id ∈ rest.map GraphNode.id
    · rw [if_pos later, if_pos (List.mem_cons_of_mem _ later)]
    · rw [if_neg later, List.filter_append]
      by_cases same : n.id = first.id
      · rw [if_pos (same ▸ List.mem_cons_self)]
        simp [same]
      · have absent : n.id ∉ first.id :: rest.map GraphNode.id := fun inside =>
          (List.mem_cons.mp inside).elim same later
        rw [if_neg absent]
        simp [same]

theorem map_id_firstOfEach (nodes : List GraphNode) :
    (firstOfEach nodes).map GraphNode.id = (nodes.map GraphNode.id).eraseDups := by
  induction nodes using List.reverseRecOn with
  | nil => rfl
  | append_singleton nodes n ih =>
    rw [firstOfEach_concat, List.map_append, List.map_singleton, eraseDups_concat, ← ih]
    split
    · rfl
    · rw [List.map_append, List.map_singleton]

theorem id_mem_firstOfEach_iff (nodes : List GraphNode) (id : ElementId) :
    id ∈ (firstOfEach nodes).map GraphNode.id ↔ id ∈ nodes.map GraphNode.id := by
  rw [map_id_firstOfEach, List.mem_eraseDups]

theorem find?_of_mem_firstOfEach {nodes : List GraphNode} {n : GraphNode}
    (h : n ∈ firstOfEach nodes) : (nodes.find? fun m => m.id = n.id) = some n := by
  induction nodes with
  | nil => cases h
  | cons first rest ih =>
    rw [firstOfEach] at h
    rw [List.find?_cons]
    rcases List.mem_cons.mp h with rfl | later
    · simp
    · obtain ⟨inside, other⟩ := List.mem_filter.mp later
      have ne : first.id ≠ n.id := Ne.symm (of_decide_eq_true other)
      rw [decide_eq_false ne]
      exact ih inside

theorem nodup_firstOfEach (nodes : List GraphNode) :
    ((firstOfEach nodes).map GraphNode.id).Nodup := by
  induction nodes with
  | nil => exact List.nodup_nil
  | cons n rest ih =>
    rw [firstOfEach, List.map_cons]
    refine List.nodup_cons.mpr ⟨?_, ih.sublist (List.filter_sublist.map _)⟩
    intro inside
    obtain ⟨other, found, same⟩ := List.mem_map.mp inside
    exact of_decide_eq_true (List.mem_filter.mp found).2 same

theorem firstOfEach_subset (nodes : List GraphNode) : firstOfEach nodes ⊆ nodes := by
  induction nodes with
  | nil => exact List.Subset.refl _
  | cons n rest ih =>
    rw [firstOfEach]
    exact List.cons_subset_cons n (List.Subset.trans List.filter_sublist.subset ih)

namespace Graph

def Indexed (g : Graph) : Prop :=
  ∀ (text : String) (k : Nat), g.index[text]? = some k ↔
    ∃ n, g.nodes[k]? = some n ∧ n.id.text = text

theorem indexed_empty : empty.Indexed := by
  intro text k
  constructor
  · intro found
    have none : empty.index[text]? = none := Std.TreeMap.getElem?_emptyc
    rw [none] at found
    cases found
  · rintro ⟨n, found, _⟩
    cases found

variable {g : Graph} {id : ElementId} {label : String}

theorem containsNode_iff (h : g.Indexed) :
    g.containsNode id = true ↔ id ∈ g.nodes.toList.map GraphNode.id := by
  rw [containsNode, Std.TreeMap.contains_eq_isSome_getElem?, Option.isSome_iff_exists,
    List.mem_map]
  constructor
  · rintro ⟨k, found⟩
    obtain ⟨n, here, text⟩ := (h id.text k).mp found
    exact ⟨n, List.mem_of_getElem? (Array.getElem?_toList.trans here),
      ElementId.text_injective text⟩
  · rintro ⟨n, inside, same⟩
    obtain ⟨k, here⟩ := List.mem_iff_getElem?.mp inside
    exact ⟨k, (h id.text k).mpr ⟨n, Array.getElem?_toList.symm.trans here, by rw [same]⟩⟩

theorem nodes_addNode (h : g.Indexed) : (g.addNode id label).nodes.toList =
    if id ∈ g.nodes.toList.map GraphNode.id then g.nodes.toList
    else g.nodes.toList ++ [⟨id, label⟩] := by
  rw [addNode]
  by_cases present : g.containsNode id
  · rw [if_pos present, if_pos ((containsNode_iff h).mp present)]
  · rw [if_neg present, if_neg fun inside => present ((containsNode_iff h).mpr inside)]
    exact Array.toList_push

theorem edges_addNode (g : Graph) (id : ElementId) (label : String) :
    (g.addNode id label).edges = g.edges := by
  rw [addNode]
  split <;> rfl

theorem containsNode_addNode (g : Graph) (id : ElementId) (label : String) :
    (g.addNode id label).containsNode id = true := by
  rw [addNode]
  by_cases present : g.containsNode id
  · rwa [if_pos present]
  · rw [if_neg present]
    exact Std.TreeMap.contains_insert_self

theorem indexed_addNode (h : g.Indexed) (id : ElementId) (label : String) :
    (g.addNode id label).Indexed := by
  rw [addNode]
  by_cases present : g.containsNode id
  · rw [if_pos present]
    exact h
  · rw [if_neg present]
    intro text k
    -- no older node has this text, so the new place hides none
    have new (k : Nat) : g.index[id.text]? ≠ some k := by
      intro found
      apply present
      rw [containsNode, Std.TreeMap.contains_eq_isSome_getElem?, found]
      rfl
    show (g.index.insert id.text g.nodes.size)[text]? = some k ↔
      ∃ n, (g.nodes.push ⟨id, label⟩)[k]? = some n ∧ n.id.text = text
    rw [Std.TreeMap.getElem?_insert, Array.getElem?_push]
    by_cases same : id.text = text
    · subst same
      simp only [Std.LawfulEqCmp.compare_eq_iff_eq, if_true, Option.some_inj]
      by_cases last : k = g.nodes.size
      · simp [last]
      · rw [if_neg last]
        constructor
        · intro eq
          exact absurd eq.symm last
        · intro found
          exact absurd ((h id.text k).mpr found) (new k)
    · simp only [Std.LawfulEqCmp.compare_eq_iff_eq, same, if_false, h text k]
      by_cases last : k = g.nodes.size
      · subst last
        simp [same]
      · rw [if_neg last]

end Graph
end CrossReference
