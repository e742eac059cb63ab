import CrossReference.Element.Tree
import CrossReference.Proofs.Lowering.Kind
import CrossReference.Proofs.Parse.Nodes

set_option autoImplicit false

/-!
# The sites of a parse tree

Where lowering finds each node of a parse tree, told by the tree alone: the number of the element
that the node becomes, its parent, the scopes around it and the number of the next scope to open.
-/
namespace CrossReference

structure Slot where
  index : Nat
  /-- The number and the kind of the parent. The root has none. -/
  parent : Option (Nat × String)
  /-- The scopes around, the innermost first. -/
  around : List (ScopeId × ScopeKind)
  nextScope : Nat

structure Site extends Slot where
  node : ParseNode

def Slot.first : Slot := ⟨ElementTree.root, none, [(ScopeTree.root, .module)], 1⟩

def Slot.scope (slot : Slot) : ScopeId := (slot.around.head?.map Prod.fst).getD ScopeTree.root

namespace Site

def opened? (S : Site) : Option ScopeKind :=
  S.parent.bind fun parent => openedScope? S.node.kind parent.2

def inside (S : Site) : List (ScopeId × ScopeKind) :=
  match S.opened? with
  | some kind => (S.nextScope, kind) :: S.around
  | none => S.around

def below (S : Site) : Slot where
  index := S.index + 1
  parent := some (S.index, S.node.kind)
  around := S.inside
  nextScope := S.nextScope + S.opened?.toList.length

end Site

def Slot.after (slot : Slot) (passed : List Site) : Slot :=
  { slot with
    index := slot.index + passed.length
    nextScope := slot.nextScope + (passed.filterMap Site.opened?).length }

mutual
/-- The sites of a node and of all elements below it, in pre-order. -/
def ParseNode.sites (slot : Slot) : ParseNode → List Site
  | .mk head fields children =>
    let here : Site := ⟨slot, .mk head fields children⟩
    here :: ParseNode.sitesIn here.below children

def ParseNode.sitesIn (slot : Slot) : List ParseNode → List Site
  | [] => []
  | n :: rest =>
    if n.isElement then
      let passed := n.sites slot
      passed ++ ParseNode.sitesIn (slot.after passed) rest
    else ParseNode.sitesIn slot rest
end

mutual
/-- The same sites in the order in which lowering leaves them, each after all below it. -/
def ParseNode.leaveOrder (slot : Slot) : ParseNode → List Site
  | .mk head fields children =>
    let here : Site := ⟨slot, .mk head fields children⟩
    ParseNode.leaveOrderIn here.below children ++ [here]

def ParseNode.leaveOrderIn (slot : Slot) : List ParseNode → List Site
  | [] => []
  | n :: rest =>
    if n.isElement then
      n.leaveOrder slot ++ ParseNode.leaveOrderIn (slot.after (n.sites slot)) rest
    else ParseNode.leaveOrderIn slot rest
end

def ParseNode.siblings (slot : Slot) : List ParseNode → List Site
  | [] => []
  | n :: rest =>
    if n.isElement then ⟨slot, n⟩ :: siblings (slot.after (n.sites slot)) rest
    else siblings slot rest

namespace Site

def sites (S : Site) : List Site := S.node.sites S.toSlot

def children (S : Site) : List Site := ParseNode.siblings S.below S.node.children

end Site

def ParseNode.rootSite (root : ParseNode) : Site := ⟨Slot.first, root⟩

def ParseNode.allSites (root : ParseNode) : List Site := root.rootSite.sites

open ParseNode

theorem Slot.after_append (slot : Slot) (a b : List Site) :
    slot.after (a ++ b) = (slot.after a).after b := by
  simp [Slot.after, Nat.add_assoc]

/-- The place after a site and those below it is the place after the last of them, outside again. -/
theorem Site.after_below (S : Site) (rest : List Site) :
    { S.below.after rest with parent := S.parent, around := S.around } =
      S.toSlot.after (S :: rest) := by
  unfold Slot.after Site.below
  rw [List.length_cons, List.filterMap_cons]
  cases S.opened? <;> simp <;> omega

theorem ParseNode.sites_eq (slot : Slot) (n : ParseNode) :
    n.sites slot = ⟨slot, n⟩ :: sitesIn (Site.below ⟨slot, n⟩) n.children := by
  cases n; rw [ParseNode.sites]; rfl

theorem ParseNode.leaveOrder_eq (slot : Slot) (n : ParseNode) :
    n.leaveOrder slot = leaveOrderIn (Site.below ⟨slot, n⟩) n.children ++ [⟨slot, n⟩] := by
  cases n; rw [ParseNode.leaveOrder]; rfl

theorem ParseNode.sitesIn_eq (slot : Slot) (list : List ParseNode) :
    sitesIn slot list = (siblings slot list).flatMap Site.sites := by
  induction list generalizing slot with
  | nil => rw [sitesIn]; rfl
  | cons n rest ih =>
    rw [sitesIn, siblings]
    split
    · rw [List.flatMap_cons, ← ih]
      rfl
    · exact ih slot

theorem Site.sites_eq (S : Site) : S.sites = S :: S.children.flatMap Site.sites := by
  rw [Site.sites, ParseNode.sites_eq, sitesIn_eq]
  rfl

theorem Site.mem_sites_self (S : Site) : S ∈ S.sites := by
  rw [S.sites_eq]
  exact List.mem_cons_self

mutual
theorem ParseNode.perm_leaveOrder (slot : Slot) : (n : ParseNode) →
    (n.leaveOrder slot).Perm (n.sites slot)
  | .mk head fields children => by
    rw [ParseNode.leaveOrder, ParseNode.sites]
    exact (List.perm_append_singleton _ _).trans
      ((ParseNode.perm_leaveOrderIn _ children).cons _)

theorem ParseNode.perm_leaveOrderIn (slot : Slot) : (list : List ParseNode) →
    (leaveOrderIn slot list).Perm (sitesIn slot list)
  | [] => by
    rw [leaveOrderIn, sitesIn]
  | n :: rest => by
    rw [leaveOrderIn, sitesIn]
    split
    · exact (ParseNode.perm_leaveOrder slot n).append (ParseNode.perm_leaveOrderIn _ rest)
    · exact ParseNode.perm_leaveOrderIn slot rest
end

mutual
theorem ParseNode.map_index_sites (slot : Slot) : (n : ParseNode) →
    (n.sites slot).map (·.index) = List.range' slot.index (n.sites slot).length
  | .mk head fields children => by
    rw [ParseNode.sites]
    simp only [List.map_cons, List.length_cons, List.range'_succ]
    rw [ParseNode.map_index_sitesIn]
    rfl

theorem ParseNode.map_index_sitesIn (slot : Slot) : (list : List ParseNode) →
    (sitesIn slot list).map (·.index) = List.range' slot.index (sitesIn slot list).length
  | [] => by
    rw [sitesIn]; rfl
  | n :: rest => by
    rw [sitesIn]
    split
    · rw [List.map_append, List.length_append, ParseNode.map_index_sites,
        ParseNode.map_index_sitesIn, ← List.range'_append_1]
      rfl
    · exact ParseNode.map_index_sitesIn slot rest
end

theorem ParseNode.of_mem_siblings {slot : Slot} {list : List ParseNode} {C : Site}
    (h : C ∈ siblings slot list) :
    C.node ∈ list ∧ C.node.isElement ∧ C.parent = slot.parent ∧ C.around = slot.around ∧
      slot.index ≤ C.index ∧ slot.nextScope ≤ C.nextScope := by
  induction list generalizing slot with
  | nil => cases h
  | cons n rest ih =>
    rw [siblings] at h
    split at h
    · next element =>
      rcases List.mem_cons.mp h with same | later
      · subst same
        exact ⟨List.mem_cons_self, element, rfl, rfl, Nat.le_refl _, Nat.le_refl _⟩
      · obtain ⟨inside, isElement, parent, around, index, nextScope⟩ := ih later
        exact ⟨List.mem_cons_of_mem _ inside, isElement, parent, around,
          Nat.le_trans (Nat.le_add_right _ _) index,
          Nat.le_trans (Nat.le_add_right _ _) nextScope⟩
    · obtain ⟨inside, rest⟩ := ih h
      exact ⟨List.mem_cons_of_mem _ inside, rest⟩

namespace Site

section
variable {S C X Y : Site}

theorem node_mem_of_mem_children (h : C ∈ S.children) : C.node ∈ S.node.children :=
  (of_mem_siblings h).1

theorem isElement_of_mem_children (h : C ∈ S.children) : C.node.isElement :=
  (of_mem_siblings h).2.1

theorem parent_of_mem_children (h : C ∈ S.children) : C.parent = some (S.index, S.node.kind) :=
  (of_mem_siblings h).2.2.1

theorem around_of_mem_children (h : C ∈ S.children) : C.around = S.inside :=
  (of_mem_siblings h).2.2.2.1

theorem index_lt_of_mem_children (h : C ∈ S.children) : S.index < C.index :=
  (of_mem_siblings h).2.2.2.2.1

theorem scope_of_mem_children (h : C ∈ S.children) :
    C.scope = if S.opened?.isSome then S.nextScope else S.scope := by
  rw [Slot.scope, around_of_mem_children h, inside]
  cases S.opened? <;> rfl

theorem sizeOf_node_lt (h : C ∈ S.children) : sizeOf C.node < sizeOf S.node := by
  have inside := List.sizeOf_lt_of_mem (node_mem_of_mem_children h)
  rcases S with ⟨slot, head, fields, children⟩
  simp only [ParseNode.children, ParseNode.mk.sizeOf_spec] at inside ⊢
  omega

theorem children_induction {P : Site → Prop} (step : ∀ S, (∀ C ∈ S.children, P C) → P S)
    (S : Site) : P S := by
  apply step S
  intro C hC
  exact children_induction step C
termination_by sizeOf S.node
decreasing_by exact sizeOf_node_lt hC

theorem infix_of_mem_children (h : C ∈ S.children) : C.sites <:+: S.sites := by
  obtain ⟨before, later, split⟩ := List.append_of_mem h
  refine ⟨S :: before.flatMap sites, later.flatMap sites, ?_⟩
  rw [S.sites_eq, split]
  simp

theorem infix_of_mem (h : X ∈ S.sites) : X.sites <:+: S.sites := by
  induction S using children_induction with
  | step S ih =>
    rw [S.sites_eq] at h
    rcases List.mem_cons.mp h with rfl | below
    · exact List.infix_refl _
    · obtain ⟨C, hC, inside⟩ := List.mem_flatMap.mp below
      exact (ih C hC inside).trans (infix_of_mem_children hC)

theorem mem_trans (hX : X ∈ S.sites) (hY : Y ∈ X.sites) : Y ∈ S.sites :=
  (infix_of_mem hX).subset hY

theorem mem_sites_of_mem_children (h : C ∈ S.children) : C ∈ S.sites :=
  (infix_of_mem_children h).subset C.mem_sites_self

@[elab_as_elim]
theorem sites_induction {motive : (X : Site) → X ∈ S.sites → Prop}
    (here : motive S S.mem_sites_self)
    (step : ∀ (Q : Site) (hQ : Q ∈ S.sites), motive Q hQ → ∀ (C : Site) (hC : C ∈ Q.children),
      motive C (mem_trans hQ (mem_sites_of_mem_children hC)))
    (hX : X ∈ S.sites) : motive X hX := by
  induction S using children_induction with
  | step S ih =>
    rcases List.mem_cons.mp (S.sites_eq ▸ hX) with rfl | below
    · exact here
    · obtain ⟨C, hC, inside⟩ := List.mem_flatMap.mp below
      have up {Y : Site} (hY : Y ∈ C.sites) := mem_trans (mem_sites_of_mem_children hC) hY
      exact ih C hC (motive := fun Y hY => motive Y (up hY)) (step S S.mem_sites_self here C hC)
        (fun Q hQ hold D hD => step Q (up hQ) hold D hD) inside

theorem exists_parent (h : X ∈ S.sites) : X = S ∨ ∃ Q ∈ S.sites, X ∈ Q.children := by
  induction h using sites_induction with
  | here => exact .inl rfl
  | step Q hQ _ C hC => exact .inr ⟨Q, hQ, hC⟩

theorem node_mem_nodes (h : X ∈ S.sites) : X.node ∈ S.node.nodes := by
  induction h using sites_induction with
  | here => exact mem_nodes_self _
  | step Q _ inside C hC => exact mem_nodes_of_mem_children inside (node_mem_of_mem_children hC)

theorem map_index_sites (S : Site) :
    S.sites.map (·.index) = List.range' S.index S.sites.length :=
  ParseNode.map_index_sites S.toSlot S.node

theorem index_mem (h : X ∈ S.sites) : S.index ≤ X.index ∧ X.index < S.index + S.sites.length := by
  have inRange : X.index ∈ List.range' S.index S.sites.length := by
    rw [← map_index_sites]
    exact List.mem_map_of_mem h
  exact List.mem_range'_1.mp inRange

theorem eq_of_index (hX : X ∈ S.sites) (hY : Y ∈ S.sites) (same : X.index = Y.index) : X = Y := by
  have nodup : (S.sites.map (·.index)).Nodup := by
    rw [map_index_sites]
    exact List.nodup_range'
  exact List.inj_on_of_nodup_map nodup hX hY same

theorem pairwise_index (S : Site) : S.sites.Pairwise fun X Y => X.index < Y.index := by
  have sorted : (S.sites.map (·.index)).Pairwise (· < ·) := by
    rw [map_index_sites]
    exact List.pairwise_lt_range'
  exact List.pairwise_map.mp sorted

theorem nodup_sites (S : Site) : S.sites.Nodup :=
  S.pairwise_index.imp (S := (· ≠ ·)) fun less same => Nat.lt_irrefl _ (same ▸ less)

end

theorem sublist_flatMap_sites (list : List Site) : list.Sublist (list.flatMap sites) := by
  induction list with
  | nil => exact List.Sublist.slnil
  | cons C rest ih =>
    rw [List.flatMap_cons, C.sites_eq, List.cons_append]
    exact (ih.trans (List.sublist_append_right _ _)).cons_cons C

theorem sublist_children (S : Site) : S.children.Sublist S.sites := by
  rw [S.sites_eq]
  exact (sublist_flatMap_sites S.children).cons S

def hangsFrom (i : Nat) (X : Site) : Bool := X.parent.any fun parent => parent.1 = i

theorem mem_children_iff {S X Y : Site} (sound : ∀ parent ∈ S.parent, parent.1 < S.index)
    (hX : X ∈ S.sites) : Y ∈ X.children ↔ Y ∈ S.sites ∧ hangsFrom X.index Y := by
  constructor
  · intro hY
    refine ⟨mem_trans hX (mem_sites_of_mem_children hY), ?_⟩
    rw [hangsFrom, parent_of_mem_children hY]
    simp
  · rintro ⟨hY, hangs⟩
    rcases exists_parent hY with same | ⟨Q, hQ, child⟩
    · subst same
      obtain ⟨parent, found, eq⟩ := (Option.any_eq_true _ _).mp hangs
      have before := sound parent found
      have after := (index_mem hX).1
      have eq : parent.1 = X.index := by simpa using eq
      omega
    · rw [hangsFrom, parent_of_mem_children child] at hangs
      have same : Q.index = X.index := by simpa using hangs
      rw [← eq_of_index hQ hX same]
      exact child

theorem filter_hangsFrom {S X : Site} (sound : ∀ parent ∈ S.parent, parent.1 < S.index)
    (h : X ∈ S.sites) : S.sites.filter (hangsFrom X.index) = X.children := by
  have sorted := (pairwise_index S).filter (hangsFrom X.index)
  have sortedChildren := (pairwise_index X).sublist (sublist_children X)
  have distinct := (nodup_sites S).filter (hangsFrom X.index)
  have distinctChildren := (nodup_sites X).sublist (sublist_children X)
  -- both lists are sorted by number, so it is enough that they have the same members
  refine List.Perm.eq_of_pairwise ?_ sorted sortedChildren ?_
  · intro Y Z _ _ less more
    exact absurd less (Nat.lt_asymm more)
  · apply (List.perm_ext_iff_of_nodup distinct distinctChildren).mpr
    intro Y
    rw [List.mem_filter, mem_children_iff sound h]

end Site

theorem ParseNode.mem_leaveOrder_iff {root : ParseNode} {S : Site} :
    S ∈ leaveOrderIn root.rootSite.below root.children ↔ S ∈ root.allSites ∧ S ≠ root.rootSite := by
  have all : root.allSites = root.rootSite :: sitesIn root.rootSite.below root.children :=
    ParseNode.sites_eq Slot.first root
  have nodup : root.allSites.Nodup := root.rootSite.nodup_sites
  rw [all, List.nodup_cons] at nodup
  rw [(ParseNode.perm_leaveOrderIn _ _).mem_iff, all, List.mem_cons]
  constructor
  · intro h
    exact ⟨.inr h, fun same => nodup.1 (same ▸ h)⟩
  · rintro ⟨same | below, ne⟩
    · exact absurd same ne
    · exact below

end CrossReference
