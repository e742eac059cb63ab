import CrossReference.Proofs.Element.Visits
import CrossReference.Proofs.Lowering.Numbering
import CrossReference.Proofs.Lowering.Progress

set_option autoImplicit false

/-!
# The elements that sites become

Once a site and all below it are entered, the element of that number has its outline, and its
children are the elements of the sites just below. A lowered tree is walked in the order of numbers.
-/
namespace CrossReference.Lowering

section
variable {source : String} {root : ParseNode} {entered : List Site} {σ : Lowering} {S : Site}

theorem Records.element (h : Records source entered σ) (inOrder : entered <+: root.allSites)
    (hS : S ∈ entered) :
    ∃ e, σ.tree.element? S.index = some e ∧ e.outline = S.outline source := by
  have outline := ElementTree.getElem?_outlines σ.tree S.index
  rw [h.outlines, List.getElem?_map, ParseNode.getElem?_of_entered inOrder hS] at outline
  obtain ⟨e, found, eq⟩ := Option.map_eq_some_iff.mp outline.symm
  exact ⟨e, found, eq⟩

theorem Records.lt_size (h : Records source entered σ) (inOrder : entered <+: root.allSites)
    (hS : S ∈ entered) : S.index < σ.tree.size := by
  obtain ⟨e, found, _⟩ := h.element inOrder hS
  exact ElementTree.lt_size_of_element found

theorem Records.parent? (h : Records source entered σ) (inOrder : entered <+: root.allSites)
    (hS : S ∈ entered) : σ.tree.parent? S.index = S.parent.map Prod.fst := by
  obtain ⟨e, found, outline⟩ := h.element inOrder hS
  rw [ElementTree.parent?, found]
  exact congrArg Element.Outline.parent outline

theorem Records.scopeOf? (h : Records source entered σ) (inOrder : entered <+: root.allSites)
    (hS : S ∈ entered) : σ.scopes.scopeOf? S.index = some S.scope := by
  rw [h.places, ParseNode.getElem?_of_entered inOrder hS]
  rfl

theorem Records.children (h : Records source entered σ) (inOrder : entered <+: root.allSites)
    (hS : S.sites ⊆ entered) {e : Element} (found : σ.tree.element? S.index = some e) :
    e.children.toList = S.children.map (·.index) := by
  rw [h.linked.children_eq _ e found, h.length, ← ParseNode.map_index_of_entered inOrder,
    List.filter_map, ← ParseNode.filter_hangsFrom_of_entered inOrder hS]
  congr 1
  apply List.filter_congr
  intro X hX
  rw [Function.comp_apply, h.parent? inOrder hX, Site.hangsFrom]
  cases X.parent <;> simp

end

theorem exists_site_lower {source : String} {root : ParseNode} {i : Nat}
    (inside : i < (lower source root).tree.size) : ∃ S ∈ root.allSites, S.index = i := by
  rw [(lower_records source root).length] at inside
  have number := List.mem_range.mpr inside
  rw [← ParseNode.map_index_allSites] at number
  exact List.mem_map.mp number

section
variable {root : ParseNode} {S : Site}

theorem element_lower (source : String) (hS : S ∈ root.allSites) :
    ∃ e, (lower source root).tree.element? S.index = some e ∧ e.outline = S.outline source :=
  (lower_records source root).element (List.prefix_refl _) hS

theorem parent?_lower (source : String) (hS : S ∈ root.allSites) :
    (lower source root).tree.parent? S.index = S.parent.map Prod.fst :=
  (lower_records source root).parent? (List.prefix_refl _) hS

theorem scopeOf?_lower (source : String) (hS : S ∈ root.allSites) :
    (lower source root).scopes.scopeOf? S.index = some S.scope :=
  (lower_records source root).scopeOf? (List.prefix_refl _) hS

theorem children_lower {source : String} (hS : S ∈ root.allSites) {e : Element}
    (found : (lower source root).tree.element? S.index = some e) :
    e.children.toList = S.children.map (·.index) :=
  (lower_records source root).children (List.prefix_refl _) (Site.infix_of_mem hS).subset found

end

theorem visits_sites (source : String) (root : ParseNode) (S : Site) (hS : S ∈ root.allSites)
    {stack order : List Nat} (rest : (lower source root).tree.Visits stack order) :
    (lower source root).tree.Visits (S.index :: stack) (S.sites.map (·.index) ++ order) := by
  induction S using Site.children_induction generalizing stack order with
  | step S ih =>
    -- siblings are visited one after the other, each with all below it
    have list (Cs : List Site) (inside : Cs ⊆ S.children) :
        (lower source root).tree.Visits (Cs.map (·.index) ++ stack)
          ((Cs.flatMap Site.sites).map (·.index) ++ order) := by
      induction Cs with
      | nil => exact rest
      | cons C Cs ihCs =>
        have hC : C ∈ S.children := inside List.mem_cons_self
        rw [List.flatMap_cons, List.map_append, List.append_assoc]
        exact ih C hC (Site.mem_trans hS (Site.mem_sites_of_mem_children hC))
          (ihCs fun X hX => inside (List.mem_cons_of_mem _ hX))
    obtain ⟨e, found, _⟩ := element_lower source hS
    have below := list S.children (List.Subset.refl _)
    rw [← children_lower hS found] at below
    rw [S.sites_eq]
    exact .next found below

theorem visits_lower (source : String) (root : ParseNode) :
    (lower source root).tree.Visits [ElementTree.root]
      (List.range (lower source root).tree.size) := by
  have visits := visits_sites source root root.rootSite root.rootSite.mem_sites_self .done
  rw [List.append_nil] at visits
  rw [(lower_records source root).length, ← ParseNode.map_index_allSites]
  exact visits

theorem walk_lower (source : String) (root : ParseNode) :
    (lower source root).tree.walk = List.range (lower source root).tree.size :=
  (visits_lower source root).walkFrom_eq (Nat.le_of_eq List.length_range)

end CrossReference.Lowering
