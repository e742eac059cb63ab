import CrossReference.Proofs.Lowering.Elements
import Mathlib.Data.List.Perm.Basic

set_option autoImplicit false

/-!
# Fields and children as elements

Lowering finds the element of a node by the number of the node. In a tree whose nodes differ in
their numbers it finds the site of that node, and it finds none for a node that is no element.
-/
namespace CrossReference

namespace ParseNode

mutual
theorem perm_sites_skipped (slot : Slot) : (n : ParseNode) →
    ((n.sites slot).map (·.node) ++ n.skipped).Perm n.nodes
  | mk head fields children => by
    rw [sites, skipped, nodes, List.map_cons, List.cons_append]
    exact (perm_sitesIn_skippedIn _ children).cons _

theorem perm_sitesIn_skippedIn (slot : Slot) : (list : List ParseNode) →
    ((sitesIn slot list).map (·.node) ++ skippedIn list).Perm (nodesIn list)
  | [] => by
    rw [sitesIn, skippedIn, nodesIn]
    exact List.Perm.refl _
  | n :: rest => by
    rw [sitesIn, skippedIn, nodesIn]
    split
    · rw [List.map_append, List.append_assoc]
      -- what `n` passes over moves in front of the sites after it
      have inner := (List.perm_append_comm_assoc
        ((sitesIn (slot.after (n.sites slot)) rest).map (·.node)) n.skipped (skippedIn rest))
      refine (inner.append_left _).trans ?_
      rw [← List.append_assoc]
      exact (perm_sites_skipped slot n).append (perm_sitesIn_skippedIn _ rest)
    · exact (List.perm_append_comm_assoc _ _ _).trans
        ((perm_sitesIn_skippedIn slot rest).append_left _)
end

theorem subset_skippedIn {n : ParseNode} {list : List ParseNode} (h : n ∈ list) :
    (if n.isElement then n.skipped else n.nodes) ⊆ skippedIn list := by
  induction list with
  | nil => cases h
  | cons first rest ih =>
    rw [skippedIn]
    rcases List.mem_cons.mp h with same | inside
    · subst same
      exact List.subset_append_left _ _
    · exact List.Subset.trans (ih inside) (List.subset_append_right _ _)

theorem map_node_siblings (slot : Slot) (list : List ParseNode) :
    (siblings slot list).map (·.node) = list.filter isElement := by
  induction list generalizing slot with
  | nil => rfl
  | cons n rest ih =>
    rw [siblings, List.filter_cons]
    split
    · rw [List.map_cons, ih]
    · exact ih slot

end ParseNode

namespace Site

variable {root : ParseNode} {S : Site}

theorem map_node_children (S : Site) : S.children.map (·.node) = S.node.elementChildren :=
  ParseNode.map_node_siblings S.below S.node.children

theorem skipped_subset (hS : S ∈ root.allSites) : S.node.skipped ⊆ root.skipped := by
  induction hS using sites_induction with
  | here => exact List.Subset.refl _
  | step Q _ inside C hC =>
    have below := ParseNode.subset_skippedIn (node_mem_of_mem_children hC)
    rw [if_pos (isElement_of_mem_children hC), ← ParseNode.skipped_eq] at below
    exact List.Subset.trans below inside

theorem nodes_subset_skipped (hS : S ∈ root.allSites) {c : ParseNode} (hc : c ∈ S.node.children)
    (other : ¬c.isElement) : c.nodes ⊆ root.skipped := by
  have below := ParseNode.subset_skippedIn hc
  rw [if_neg other, ← ParseNode.skipped_eq] at below
  exact List.Subset.trans below (skipped_subset hS)

end Site

namespace ParseNode.WellFormed

variable {root : ParseNode} {X Y : Site}

theorem nodup_numbers (wf : root.WellFormed) :
    (root.allSites.map fun S => S.node.number).Nodup ∧
      ∀ S ∈ root.allSites, ∀ c ∈ root.skipped, S.node.number ≠ c.number := by
  have perm := (perm_sites_skipped Slot.first root).map number
  have nodup := perm.nodup_iff.mpr wf.numbers_nodup
  rw [List.map_append, List.map_map] at nodup
  obtain ⟨sites, _, apart⟩ := List.nodup_append.mp nodup
  refine ⟨sites, ?_⟩
  intro S hS c hc
  exact apart _ (List.mem_map_of_mem hS) _ (List.mem_map_of_mem hc)

theorem site_eq (wf : root.WellFormed) (hX : X ∈ root.allSites) (hY : Y ∈ root.allSites)
    (same : X.node.number = Y.node.number) : X = Y :=
  List.inj_on_of_nodup_map wf.nodup_numbers.1 hX hY same

end ParseNode.WellFormed

theorem find?_eq_some_of_unique {α : Type} {p : α → Bool} {list : List α} {a : α} (h : a ∈ list)
    (here : p a) (unique : ∀ b ∈ list, p b → b = a) : list.find? p = some a := by
  obtain ⟨b, found⟩ := Option.isSome_iff_exists.mp (List.find?_isSome.mpr ⟨a, h, here⟩)
  rw [found, unique b (List.mem_of_find?_eq_some found) (List.find?_some found)]

namespace Site

def child? (S : Site) (c : ParseNode) : Option Site :=
  S.children.find? fun C => C.node.number = c.number

def field? (S : Site) (f : Field) : Option Site := (S.node.field? f).bind S.child?

def parameters (S : Site) : List Site :=
  match S.node.field? .parameters with
  | some _ => ((S.field? .parameters).map children).getD []
  | none => (S.field? .parameter).toList

variable {root : ParseNode} {S C : Site}

theorem exists_of_mem_children {c : ParseNode} (hc : c ∈ S.node.children) (element : c.isElement) :
    ∃ C ∈ S.children, C.node = c := by
  have inside : c ∈ S.children.map (·.node) := by
    rw [map_node_children]
    exact List.mem_filter.mpr ⟨hc, element⟩
  exact List.mem_map.mp inside

theorem child?_node (wf : root.WellFormed) (hS : S ∈ root.allSites) (hC : C ∈ S.children) :
    S.child? C.node = some C := by
  have all {D : Site} (hD : D ∈ S.children) : D ∈ root.allSites :=
    mem_trans hS (mem_sites_of_mem_children hD)
  apply find?_eq_some_of_unique hC (decide_eq_true rfl)
  intro D hD same
  exact wf.site_eq (all hD) (all hC) (of_decide_eq_true same)

theorem child?_of_not (wf : root.WellFormed) (hS : S ∈ root.allSites) {c : ParseNode}
    (hc : c ∈ S.node.children) (other : ¬c.isElement) : S.child? c = none := by
  apply List.find?_eq_none.mpr
  intro C hC same
  have passed := nodes_subset_skipped hS hc other (ParseNode.mem_nodes_self c)
  exact wf.nodup_numbers.2 C (mem_trans hS (mem_sites_of_mem_children hC)) c passed
    (of_decide_eq_true same)

theorem node_field? (wf : root.WellFormed) (hS : S ∈ root.allSites) {f : Field}
    (h : S.field? f = some C) : S.node.field? f = some C.node := by
  obtain ⟨c, found, child⟩ := Option.bind_eq_some_iff.mp h
  have hc := wf.field_mem_children (node_mem_nodes hS) found
  by_cases element : c.isElement
  · obtain ⟨D, hD, same⟩ := exists_of_mem_children hc element
    subst same
    rw [child?_node wf hS hD] at child
    cases child
    exact found
  · rw [child?_of_not wf hS hc element] at child
    cases child

end Site

namespace Lowering

variable {source : String} {root : ParseNode} {entered : List Site} {σ : Lowering} {S X : Site}

theorem Records.elementOf? (h : Records source entered σ) (wf : root.WellFormed)
    (inOrder : entered <+: root.allSites) (hX : X ∈ entered) :
    σ.elementOf? X.node = some X.index := by
  rw [Lowering.elementOf?, h.elements, find?_eq_some_of_unique (List.mem_reverse.mpr hX)
    (decide_eq_true rfl) ?_]
  · rfl
  · intro Y hY same
    exact wf.site_eq (inOrder.subset (List.mem_reverse.mp hY)) (inOrder.subset hX)
      (of_decide_eq_true same)

theorem Records.elementOf?_skipped (h : Records source entered σ) (wf : root.WellFormed)
    (inOrder : entered <+: root.allSites) {c : ParseNode} (hc : c ∈ root.skipped) :
    σ.elementOf? c = none := by
  have absent : (entered.reverse.find? fun S => S.node.number = c.number) = none := by
    apply List.find?_eq_none.mpr
    intro Y hY same
    exact wf.nodup_numbers.2 Y (inOrder.subset (List.mem_reverse.mp hY)) c hc
      (of_decide_eq_true same)
  rw [Lowering.elementOf?, h.elements, absent]
  rfl

theorem Records.childElements (h : Records source entered σ) (wf : root.WellFormed)
    (inOrder : entered <+: root.allSites) (inside : S.sites ⊆ entered) :
    σ.childElements S.node = S.children.map (·.index) := by
  rw [Lowering.childElements, ← S.map_node_children, List.filterMap_map, ← List.filterMap_eq_map]
  apply List.filterMap_congr
  intro C hC
  exact h.elementOf? wf inOrder (inside (Site.mem_sites_of_mem_children hC))

theorem Records.elementOf?_child (h : Records source entered σ) (wf : root.WellFormed)
    (inOrder : entered <+: root.allSites) (inside : S.sites ⊆ entered) {c : ParseNode}
    (hc : c ∈ S.node.children) : σ.elementOf? c = (S.child? c).map (·.index) := by
  have hS : S ∈ root.allSites := inOrder.subset (inside S.mem_sites_self)
  by_cases element : c.isElement
  · obtain ⟨C, hC, same⟩ := Site.exists_of_mem_children hc element
    subst same
    rw [Site.child?_node wf hS hC,
      h.elementOf? wf inOrder (inside (Site.mem_sites_of_mem_children hC))]
    rfl
  · have passed := Site.nodes_subset_skipped hS hc element (ParseNode.mem_nodes_self c)
    rw [Site.child?_of_not wf hS hc element, h.elementOf?_skipped wf inOrder passed]
    rfl

theorem Records.fieldOf? (h : Records source entered σ) (wf : root.WellFormed)
    (inOrder : entered <+: root.allSites) (inside : S.sites ⊆ entered) (f : Field) :
    σ.fieldOf? S.node f = (S.field? f).map (·.index) := by
  have hS : S.node ∈ root.nodes := Site.node_mem_nodes (inOrder.subset (inside S.mem_sites_self))
  rw [Lowering.fieldOf?, Site.field?]
  cases found : S.node.field? f with
  | none => rfl
  | some c =>
    rw [Option.bind_some, Option.bind_some]
    exact h.elementOf?_child wf inOrder inside (wf.field_mem_children hS found)

theorem Records.parameters (h : Records source entered σ) (wf : root.WellFormed)
    (inOrder : entered <+: root.allSites) (inside : S.sites ⊆ entered) :
    σ.parameters S.node = S.parameters.map (·.index) := by
  have hS : S ∈ root.allSites := inOrder.subset (inside S.mem_sites_self)
  rw [Lowering.parameters, Site.parameters]
  cases found : S.node.field? .parameters with
  | none =>
    simp only
    rw [h.fieldOf? wf inOrder inside]
    cases S.field? .parameter <;> rfl
  | some c =>
    simp only
    have hc := wf.field_mem_children (Site.node_mem_nodes hS) found
    by_cases element : c.isElement
    · obtain ⟨C, hC, same⟩ := Site.exists_of_mem_children hc element
      subst same
      have list : S.field? .parameters = some C := by
        rw [Site.field?, found, Option.bind_some]
        exact Site.child?_node wf hS hC
      have below := List.Subset.trans (Site.infix_of_mem_children hC).subset inside
      rw [list, Option.map_some, Option.getD_some, h.childElements wf inOrder below]
    · have list : S.field? .parameters = none := by
        rw [Site.field?, found, Option.bind_some]
        exact Site.child?_of_not wf hS hc element
      rw [list, Lowering.childElements]
      apply List.filterMap_eq_nil_iff.mpr
      intro d hd
      have below : d ∈ c.nodes :=
        ParseNode.mem_nodes_of_mem_children (ParseNode.mem_nodes_self c) (List.mem_filter.mp hd).1
      exact h.elementOf?_skipped wf inOrder (Site.nodes_subset_skipped hS hc element below)

end Lowering
end CrossReference
