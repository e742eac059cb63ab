import CrossReference.Proofs.Element.Reach
import CrossReference.Proofs.Lowering.Elements
import Mathlib.Data.List.Pairwise

set_option autoImplicit false

/-!
# Sites that lie in each other

A site and those below it have the numbers of one interval, so of two sites around a third one lies
in the other. The ancestors of an element are the sites that it lies in.
-/
namespace CrossReference

theorem ParseNode.index_mem_sitesIn {slot : Slot} {list : List ParseNode} {X : Site}
    (h : X ∈ sitesIn slot list) :
    slot.index ≤ X.index ∧ X.index < slot.index + (sitesIn slot list).length := by
  apply List.mem_range'_1.mp
  rw [← ParseNode.map_index_sitesIn]
  exact List.mem_map_of_mem h

namespace Site

variable {root : ParseNode} {S A B C D Q R X : Site}

theorem mem_sites_iff (hA : A ∈ root.allSites) (hX : X ∈ root.allSites) :
    X ∈ A.sites ↔ A.index ≤ X.index ∧ X.index < A.index + A.sites.length := by
  refine ⟨index_mem, fun inside => ?_⟩
  have number : X.index ∈ A.sites.map (·.index) := by
    rw [map_index_sites]
    exact List.mem_range'_1.mpr inside
  obtain ⟨Y, hY, same⟩ := List.mem_map.mp number
  rwa [← eq_of_index (mem_trans hA hY) hX same]

theorem mem_or_mem (hA : A ∈ root.allSites) (hB : B ∈ root.allSites) (inA : X ∈ A.sites)
    (inB : X ∈ B.sites) : A ∈ B.sites ∨ B ∈ A.sites := by
  have a := index_mem inA
  have b := index_mem inB
  rcases Nat.le_total A.index B.index with less | more
  · exact .inr ((mem_sites_iff hA hB).mpr ⟨less, by omega⟩)
  · exact .inl ((mem_sites_iff hB hA).mpr ⟨more, by omega⟩)

theorem eq_of_mem_of_mem (inB : A ∈ B.sites) (inA : B ∈ A.sites) : A = B :=
  eq_of_index inB B.mem_sites_self (Nat.le_antisymm (index_mem inA).1 (index_mem inB).1)

theorem exists_slot_of_ne (hX : X ∈ root.allSites) (ne : X ≠ root.rootSite) :
    ∃ p kind, X.parent = some (p, kind) := by
  rcases exists_parent hX with same | ⟨Q, _, child⟩
  · exact absurd same ne
  · exact ⟨_, _, parent_of_mem_children child⟩

theorem exists_child_of_ne (inside : X ∈ S.sites) (ne : X ≠ S) : ∃ C ∈ S.children, X ∈ C.sites := by
  rw [S.sites_eq] at inside
  exact List.mem_flatMap.mp ((List.mem_cons.mp inside).resolve_left ne)

theorem child_unique (hC : C ∈ S.children) (hD : D ∈ S.children) (inC : X ∈ C.sites)
    (inD : X ∈ D.sites) : C = D := by
  have nodup := S.nodup_sites
  rw [S.sites_eq, List.nodup_cons, List.nodup_flatMap] at nodup
  have symmetric : Std.Symm (Function.onFun List.Disjoint sites) := ⟨fun _ _ => List.disjoint_symm⟩
  by_contra other
  exact nodup.2.2.forall hC hD other inC inD

theorem parent_unique (hQ : Q ∈ root.allSites) (hR : R ∈ root.allSites) (inQ : X ∈ Q.children)
    (inR : X ∈ R.children) : Q = R := by
  have same := (parent_of_mem_children inQ).symm.trans (parent_of_mem_children inR)
  exact eq_of_index hQ hR (congrArg Prod.fst (Option.some.inj same))

theorem parent_mem_sites (hA : A ∈ root.allSites) (hQ : Q ∈ root.allSites) (child : X ∈ Q.children)
    (inside : X ∈ A.sites) (ne : X ≠ A) : Q ∈ A.sites := by
  rcases exists_parent inside with same | ⟨R, hR, child'⟩
  · exact absurd same ne
  · rwa [parent_unique hQ (mem_trans hA hR) child child']

theorem ne_of_mem_children (child : X ∈ Q.children) : X ≠ Q := fun same =>
  absurd (index_lt_of_mem_children child) (same ▸ Nat.lt_irrefl _)

end Site

mutual
theorem ParseNode.pairwise_leaveOrder (slot : Slot) : (n : ParseNode) →
    (n.leaveOrder slot).Pairwise fun A B => B ∉ A.sites
  | .mk head fields children => by
    let S : Site := ⟨slot, .mk head fields children⟩
    rw [ParseNode.leaveOrder_eq, List.pairwise_append]
    refine ⟨ParseNode.pairwise_leaveOrderIn _ children, List.pairwise_singleton _ _, ?_⟩
    intro A hA B hB inside
    rw [List.mem_singleton.mp hB] at inside
    have below := (ParseNode.index_mem_sitesIn
      ((ParseNode.perm_leaveOrderIn S.below children).mem_iff.mp hA)).1
    exact Nat.lt_irrefl _ (Nat.lt_of_lt_of_le below (Site.index_mem inside).1)

theorem ParseNode.pairwise_leaveOrderIn (slot : Slot) : (list : List ParseNode) →
    (leaveOrderIn slot list).Pairwise fun A B => B ∉ A.sites
  | [] => by
    rw [leaveOrderIn]
    exact List.Pairwise.nil
  | n :: rest => by
    rw [leaveOrderIn]
    split
    · let S : Site := ⟨slot, n⟩
      refine List.pairwise_append.mpr ⟨ParseNode.pairwise_leaveOrder slot n,
        ParseNode.pairwise_leaveOrderIn _ rest, ?_⟩
      intro A hA B hB inside
      have first : A ∈ S.sites := (ParseNode.perm_leaveOrder slot n).mem_iff.mp hA
      have before := (Site.index_mem (Site.mem_trans first inside)).2
      have after := (ParseNode.index_mem_sitesIn
        ((ParseNode.perm_leaveOrderIn _ rest).mem_iff.mp hB)).1
      exact Nat.lt_irrefl _ (Nat.lt_of_lt_of_le before after)
    · exact ParseNode.pairwise_leaveOrderIn slot rest
end

namespace Lowering

theorem mem_ancestors_lower (source : String) {root : ParseNode} {A X : Site}
    (hA : A ∈ root.allSites) (hX : X ∈ root.allSites) :
    A.index ∈ (lower source root).tree.ancestors X.index ↔ X ∈ A.sites ∧ X ≠ A := by
  have records := lower_records source root
  induction hX using Site.sites_induction with
  | here =>
    have orphan := parent?_lower source root.rootSite.mem_sites_self
    rw [ElementTree.ancestors_of_orphan orphan]
    refine iff_of_false List.not_mem_nil fun inside => inside.2 ?_
    exact Site.eq_of_mem_of_mem inside.1 hA
  | step Q hQ above C hC =>
    have up := parent?_lower source (Site.mem_trans hQ (Site.mem_sites_of_mem_children hC))
    rw [Site.parent_of_mem_children hC] at up
    rw [ElementTree.ancestors_of_parent records.linked up, List.mem_cons]
    constructor
    · rintro (same | around)
      · rw [Site.eq_of_index hA hQ same]
        exact ⟨Site.mem_sites_of_mem_children hC, Site.ne_of_mem_children hC⟩
      · have inside := (above.mp around).1
        have below := Site.mem_trans inside (Site.mem_sites_of_mem_children hC)
        refine ⟨below, fun same => ?_⟩
        have less := Site.index_lt_of_mem_children hC
        have more := (Site.index_mem inside).1
        rw [← same] at more
        exact Nat.lt_irrefl _ (Nat.lt_of_lt_of_le less more)
    · rintro ⟨inside, ne⟩
      by_cases here : A = Q
      · exact .inl (congrArg (fun S : Site => S.index) here)
      · exact .inr (above.mpr ⟨Site.parent_mem_sites hA hQ hC inside ne, Ne.symm here⟩)

end Lowering
end CrossReference
