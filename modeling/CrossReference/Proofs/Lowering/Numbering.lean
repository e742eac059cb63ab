import CrossReference.Proofs.Lowering.Site

set_option autoImplicit false

/-!
# How sites are numbered

Elements are numbered in the order of the sites, and so are the scopes that sites open.
-/
namespace CrossReference

open ParseNode

namespace Site

/-- Each site opens the scope after those that the sites before it have opened. -/
def CountedFrom : Nat → List Site → Prop
  | _, [] => True
  | next, S :: rest => S.nextScope = next ∧ CountedFrom (next + S.opened?.toList.length) rest

theorem countedFrom_append {a b : List Site} {next : Nat} : CountedFrom next (a ++ b) ↔
    CountedFrom next a ∧ CountedFrom (next + (a.filterMap opened?).length) b := by
  induction a generalizing next with
  | nil => simp [CountedFrom]
  | cons S a ih =>
    have length : (List.filterMap opened? (S :: a)).length =
        S.opened?.toList.length + (a.filterMap opened?).length := by
      rw [List.filterMap_cons]
      cases S.opened? with
      | none => exact (Nat.zero_add _).symm
      | some kind => rw [List.length_cons, Nat.add_comm]; rfl
    rw [List.cons_append, CountedFrom, CountedFrom, ih, length, Nat.add_assoc, and_assoc]

theorem nextScope_of_countedFrom {a b : List Site} {S : Site} {next : Nat}
    (h : CountedFrom next (a ++ S :: b)) : S.nextScope = next + (a.filterMap opened?).length :=
  (countedFrom_append.mp h).2.1

end Site

mutual
theorem ParseNode.sites_counted (slot : Slot) : (n : ParseNode) →
    Site.CountedFrom slot.nextScope (n.sites slot)
  | .mk head fields children => by
    rw [ParseNode.sites]
    exact ⟨rfl, ParseNode.sitesIn_counted (Site.below ⟨slot, .mk head fields children⟩) children⟩

theorem ParseNode.sitesIn_counted (slot : Slot) : (list : List ParseNode) →
    Site.CountedFrom slot.nextScope (sitesIn slot list)
  | [] => by
    rw [sitesIn]
    trivial
  | n :: rest => by
    rw [sitesIn]
    split
    · exact Site.countedFrom_append.mpr
        ⟨ParseNode.sites_counted slot n,
          ParseNode.sitesIn_counted (slot.after (n.sites slot)) rest⟩
    · exact ParseNode.sitesIn_counted slot rest
end

namespace ParseNode

variable {root : ParseNode} {entered : List Site} {S X : Site}

theorem map_index_allSites (root : ParseNode) :
    root.allSites.map (·.index) = List.range root.allSites.length := by
  rw [List.range_eq_range']
  exact Site.map_index_sites root.rootSite

theorem map_index_of_entered (h : entered <+: root.allSites) :
    entered.map (·.index) = List.range entered.length := by
  rw [List.prefix_iff_eq_take.mp h, List.map_take, map_index_allSites, List.take_range,
    List.length_take]

theorem getElem?_of_entered (h : entered <+: root.allSites) (hS : S ∈ entered) :
    entered[S.index]? = some S := by
  obtain ⟨k, hk⟩ := List.mem_iff_getElem?.mp hS
  have short : k < entered.length := (List.getElem?_eq_some_iff.mp hk).1
  have number : (entered.map (·.index))[k]? = some S.index := by
    rw [List.getElem?_map, hk]
    rfl
  rw [map_index_of_entered h, List.getElem?_range short] at number
  rw [← Option.some.inj number, hk]

theorem index_lt_of_entered (h : entered <+: root.allSites) (hS : S ∈ entered) :
    S.index < entered.length :=
  (List.getElem?_eq_some_iff.mp (getElem?_of_entered h hS)).1

/-- Once all below a site has been entered, those that hang from it are the ones just below. -/
theorem filter_hangsFrom_of_entered (h : entered <+: root.allSites) (hX : X.sites ⊆ entered) :
    entered.filter (Site.hangsFrom X.index) = X.children := by
  have all : X ∈ root.allSites := h.subset (hX X.mem_sites_self)
  obtain ⟨later, split⟩ := h
  have whole : root.allSites.filter (Site.hangsFrom X.index) = X.children :=
    Site.filter_hangsFrom (fun parent none => nomatch none) all
  rw [← split, List.filter_append] at whole
  suffices later.filter (Site.hangsFrom X.index) = [] by rw [← whole, this, List.append_nil]
  apply List.eq_nil_iff_forall_not_mem.mpr
  intro Y hY
  have child : Y ∈ X.children := whole ▸ List.mem_append_right _ hY
  have early : Y ∈ entered := hX (Site.mem_sites_of_mem_children child)
  have sorted : (entered ++ later).Pairwise fun X Y => X.index < Y.index := by
    rw [split]
    exact Site.pairwise_index root.rootSite
  have less := (List.pairwise_append.mp sorted).2.2 Y early Y (List.mem_filter.mp hY).1
  exact Nat.lt_irrefl _ less

theorem scope_lt_nextScope (hS : S ∈ root.allSites) : S.scope < S.nextScope := by
  induction hS using Site.sites_induction with
  | here => exact Nat.zero_lt_one
  | step Q _ less C hC =>
    have later : Q.nextScope + Q.opened?.toList.length ≤ C.nextScope :=
      (of_mem_siblings hC).2.2.2.2.2
    rw [Site.scope_of_mem_children hC]
    cases opened : Q.opened? with
    | none =>
      rw [opened] at later
      exact Nat.lt_of_lt_of_le less later
    | some kind =>
      rw [opened] at later
      exact Nat.lt_of_succ_le later

theorem nextScope_of_split {a b : List Site} (split : root.allSites = a ++ S :: b) :
    S.nextScope = (a.filterMap Site.opened?).length + 1 := by
  have counted := ParseNode.sites_counted Slot.first root
  change Site.CountedFrom 1 root.allSites at counted
  rw [split] at counted
  rw [Site.nextScope_of_countedFrom counted, Nat.add_comm]

end ParseNode
end CrossReference
