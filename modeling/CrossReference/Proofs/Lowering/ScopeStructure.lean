import CrossReference.Proofs.Lowering.Elements

set_option autoImplicit false

/-!
# The scopes of a lowered tree

The scope of each element is told by the kinds of the elements around it: an element stands in the
scope that its parent opened, or beside its parent where that opened none. Scopes are numbered in
pre-order of the elements that open them, and each lies in the scope of its element:
`lower_scopeStructure`.
-/
namespace CrossReference

namespace ElementTree

def opened? (t : ElementTree) (i : Nat) : Option ScopeKind :=
  (t.element? i).bind fun e => (e.parent.bind t.element?).bind fun parent =>
    openedScope? e.kind parent.kind

/-- The elements that open a scope, in pre-order. -/
def openers (t : ElementTree) : List Nat := t.walk.filter fun i => (t.opened? i).isSome

end ElementTree

structure ScopeStructure (t : ElementTree) (scopes : ScopeTree) : Prop where
  root_scope : scopes.scopeOf? ElementTree.root = some ScopeTree.root
  scope_of_child : ∀ i < t.size, i ≠ ElementTree.root → ∃ p < i, t.parent? i = some p ∧
    scopes.scopeOf? i =
      if p ∈ t.openers then some (t.openers.idxOf p + 1) else scopes.scopeOf? p
  scope_exists : ∀ i < t.size, ∃ s < scopes.count, scopes.scopeOf? i = some s
  root_kind : scopes.kind? ScopeTree.root = some .module
  root_parent : scopes.parent? ScopeTree.root = none
  count_eq : scopes.count = t.openers.length + 1
  /-- The scope that the opener at place `k` has opened, with the scope around it. -/
  opened_eq : ∀ (k p : Nat), t.openers[k]? = some p → scopes.kind? (k + 1) = t.opened? p ∧
    ∃ s < k + 1, scopes.scopeOf? p = some s ∧ scopes.parent? (k + 1) = some s
  chain_ends : ∀ s < scopes.count, (scopes.chain s).getLast? = some ScopeTree.root

theorem ScopeTree.getLast?_chainFrom {t : ScopeTree} (atRoot : t.parent? root = none)
    (inner : ∀ s : Nat, 0 < s → s < t.count → ∃ outer < s, t.parent? s = some outer)
    (steps s : Nat) (enough : s ≤ steps) (exist : s < t.count) :
    (t.chainFrom steps s).getLast? = some root := by
  induction steps generalizing s with
  | zero =>
    obtain rfl : s = 0 := by omega
    rfl
  | succ steps ih =>
    rw [chainFrom]
    by_cases isRoot : s = root
    · subst isRoot
      rw [atRoot]
      rfl
    · obtain ⟨outer, less, parent⟩ := inner s (Nat.pos_of_ne_zero isRoot) exist
      rw [parent]
      simp only
      rw [List.getLast?_cons, ih outer (by omega) (by omega)]
      rfl

theorem getElem?_filterMap_eq {α β : Type} (f : α → Option β) (list : List α) (k : Nat) :
    (list.filterMap f)[k]? = ((list.filter fun a => (f a).isSome)[k]?).bind f := by
  induction list generalizing k with
  | nil => rfl
  | cons a rest ih =>
    rw [List.filterMap_cons, List.filter_cons]
    cases given : f a with
    | none => exact ih k
    | some b =>
      cases k with
      | zero => exact given.symm
      | succ k => exact ih k

namespace Lowering

section
variable {source : String} {root : ParseNode} {S : Site}

theorem opened?_lower (source : String) (hS : S ∈ root.allSites) :
    (lower source root).tree.opened? S.index = S.opened? := by
  obtain ⟨e, found, outline⟩ := element_lower source hS
  have kind : e.kind = S.node.kind := congrArg Element.Outline.kind outline
  have parent : e.parent = S.parent.map Prod.fst := congrArg Element.Outline.parent outline
  rw [ElementTree.opened?, found, Option.bind_some, parent, kind, Site.opened?]
  rcases Site.exists_parent hS with same | ⟨Q, hQ, child⟩
  · subst same
    rfl
  · obtain ⟨q, foundQ, outlineQ⟩ := element_lower source hQ
    have kindQ : q.kind = Q.node.kind := congrArg Element.Outline.kind outlineQ
    rw [Site.parent_of_mem_children child, Option.map_some, Option.bind_some, foundQ,
      Option.bind_some, kindQ]
    rfl

theorem openers_lower (source : String) (root : ParseNode) :
    (lower source root).tree.openers =
      (root.allSites.filter fun S => S.opened?.isSome).map (·.index) := by
  rw [ElementTree.openers, walk_lower, (lower_records source root).length,
    ← ParseNode.map_index_allSites, List.filter_map]
  congr 1
  apply List.filter_congr
  intro S hS
  rw [Function.comp_apply, opened?_lower source hS]

theorem index_mem_openers_iff (source : String) (hS : S ∈ root.allSites) :
    S.index ∈ (lower source root).tree.openers ↔ S.opened?.isSome := by
  rw [ElementTree.openers, List.mem_filter, opened?_lower source hS, walk_lower, List.mem_range]
  exact and_iff_right ((lower_records source root).lt_size (List.prefix_refl _) hS)

theorem idxOf_openers (source : String) (hS : S ∈ root.allSites) (opens : S.opened?.isSome) :
    (lower source root).tree.openers.idxOf S.index + 1 = S.nextScope := by
  obtain ⟨a, b, split⟩ := List.append_of_mem hS
  have sorted := Site.pairwise_index root.rootSite
  change root.allSites.Pairwise _ at sorted
  rw [split] at sorted
  -- sites before `S` have smaller numbers, so `S` is not among their openers
  have new : S.index ∉ (a.filter fun S => S.opened?.isSome).map (·.index) := by
    intro inside
    obtain ⟨X, hX, same⟩ := List.mem_map.mp inside
    have less := (List.pairwise_append.mp sorted).2.2 X (List.mem_filter.mp hX).1 S
      List.mem_cons_self
    omega
  rw [openers_lower, ParseNode.nextScope_of_split split, split, List.filter_append, List.map_append,
    List.idxOf_append_of_notMem new, List.filter_cons, if_pos opens, List.map_cons,
    List.idxOf_cons_self, List.length_map, List.length_filterMap_eq_countP,
    List.countP_eq_length_filter]

theorem scopes_lower (source : String) (root : ParseNode) (s : Nat) :
    (lower source root).scopes.scopes[s]? =
      (⟨.module, none⟩ :: root.allSites.filterMap Site.scopeRecord?)[s]? := by
  rw [← Array.getElem?_toList, (lower_records source root).scopes]

theorem scope_lower (source : String) {k p : Nat}
    (h : (lower source root).tree.openers[k]? = some p) :
    ∃ S ∈ root.allSites, S.index = p ∧ S.nextScope = k + 1 ∧ S.opened?.isSome ∧
      (lower source root).scopes.scopes[k + 1]? = S.scopeRecord? := by
  have openers := openers_lower source root
  have place := h
  rw [openers, List.getElem?_map] at h
  obtain ⟨S, found, same⟩ := Option.map_eq_some_iff.mp h
  obtain ⟨hS, opens⟩ := List.mem_filter.mp (List.mem_of_getElem? found)
  refine ⟨S, hS, same, ?_, opens, ?_⟩
  · have nodup : (lower source root).tree.openers.Nodup := by
      rw [ElementTree.openers, walk_lower]
      exact List.nodup_range.filter _
    obtain ⟨short, eq⟩ := List.getElem?_eq_some_iff.mp place
    rw [← idxOf_openers source hS opens, same, ← eq, nodup.idxOf_getElem k short]
  · rw [scopes_lower, List.getElem?_cons_succ, getElem?_filterMap_eq]
    have records : (fun S : Site => S.scopeRecord?.isSome) = fun S => S.opened?.isSome := by
      funext S
      rw [Site.scopeRecord?, Option.isSome_map]
    rw [records, found, Option.bind_some]

theorem count_lower (source : String) (root : ParseNode) :
    (lower source root).scopes.count = (lower source root).tree.openers.length + 1 := by
  have length : (lower source root).scopes.scopes.toList.length =
      (root.allSites.filterMap Site.scopeRecord?).length + 1 := by
    rw [(lower_records source root).scopes, List.length_cons]
  have records : (fun S : Site => S.scopeRecord?.isSome) = fun S => S.opened?.isSome := by
    funext S
    rw [Site.scopeRecord?, Option.isSome_map]
  rw [ScopeTree.count, ← Array.length_toList, length, openers_lower, List.length_map,
    List.length_filterMap_eq_countP, List.countP_eq_length_filter, records]

theorem scope_lt_count (source : String) (hS : S ∈ root.allSites) :
    S.scope < (lower source root).scopes.count := by
  rw [count_lower]
  induction hS using Site.sites_induction with
  | here => exact Nat.succ_pos _
  | step Q hQ less C hC =>
    rw [Site.scope_of_mem_children hC]
    by_cases opens : Q.opened?.isSome
    · rw [if_pos opens, ← idxOf_openers source hQ opens]
      exact Nat.succ_lt_succ
        (List.idxOf_lt_length_of_mem ((index_mem_openers_iff source hQ).mpr opens))
    · rw [if_neg opens]
      exact less

theorem scopeOf?_lower_of_mem_children (source : String) {Q : Site} (hQ : Q ∈ root.allSites)
    (child : S ∈ Q.children) :
    (lower source root).scopes.scopeOf? S.index =
      if Q.index ∈ (lower source root).tree.openers
        then some ((lower source root).tree.openers.idxOf Q.index + 1)
        else (lower source root).scopes.scopeOf? Q.index := by
  have hS : S ∈ root.allSites := Site.mem_trans hQ (Site.mem_sites_of_mem_children child)
  rw [scopeOf?_lower source hS, Site.scope_of_mem_children child]
  by_cases opens : Q.opened?.isSome
  · rw [if_pos opens, if_pos ((index_mem_openers_iff source hQ).mpr opens),
      idxOf_openers source hQ opens]
  · rw [if_neg opens, if_neg fun inside => opens ((index_mem_openers_iff source hQ).mp inside),
      scopeOf?_lower source hQ]

theorem opened_lower (source : String) {k p : Nat}
    (h : (lower source root).tree.openers[k]? = some p) :
    (lower source root).scopes.kind? (k + 1) = (lower source root).tree.opened? p ∧
      ∃ s < k + 1, (lower source root).scopes.scopeOf? p = some s ∧
        (lower source root).scopes.parent? (k + 1) = some s := by
  obtain ⟨S, hS, same, number, opens, found⟩ := scope_lower source h
  subst same
  obtain ⟨kind, opened⟩ := Option.isSome_iff_exists.mp opens
  rw [Site.scopeRecord?, opened, Option.map_some] at found
  refine ⟨?_, S.scope, ?_, ?_, ?_⟩
  · rw [ScopeTree.kind?, found, opened?_lower source hS, opened]
    rfl
  · rw [← number]
    exact ParseNode.scope_lt_nextScope hS
  · exact scopeOf?_lower source hS
  · rw [ScopeTree.parent?, found]
    rfl

theorem root_lower (source : String) (root : ParseNode) :
    (lower source root).scopes.kind? ScopeTree.root = some .module ∧
      (lower source root).scopes.parent? ScopeTree.root = none := by
  have found : (lower source root).scopes.scopes[ScopeTree.root]? = some ⟨.module, none⟩ := by
    rw [scopes_lower]
    rfl
  rw [ScopeTree.kind?, ScopeTree.parent?, found]
  exact ⟨rfl, rfl⟩

theorem nested_lower (source : String) (hS : S ∈ root.allSites) :
    (lower source root).scopes.Nested S.around := by
  induction hS using Site.sites_induction with
  | here => exact ⟨rfl, rfl, root_lower source root⟩
  | step Q hQ nested C hC =>
    rw [Site.around_of_mem_children hC, Site.inside]
    cases opened : Q.opened? with
    | none => exact nested
    | some kind =>
      have opens : Q.opened?.isSome := by rw [opened]; rfl
      -- the scope that `Q` has opened comes in front of those around `Q`
      have place := List.getElem?_idxOf ((index_mem_openers_iff source hQ).mpr opens)
      obtain ⟨kinds, s, less, scope, parent⟩ := opened_lower source place
      rw [idxOf_openers source hQ opens] at kinds less parent
      rw [scopeOf?_lower source hQ] at scope
      obtain rfl := Option.some.inj scope
      rw [opened?_lower source hQ, opened] at kinds
      rw [Slot.scope] at less parent
      cases around : Q.around with
      | nil =>
        rw [around] at nested
        exact nested.elim
      | cons outer rest =>
        rw [around] at less parent nested
        exact ⟨kinds, parent, less, nested⟩

end

theorem lower_scopeStructure (source : String) (root : ParseNode) :
    ScopeStructure (lower source root).tree (lower source root).scopes := by
  have records := lower_records source root
  have whole := List.prefix_refl root.allSites
  have rootHere : root.rootSite ∈ root.allSites := root.rootSite.mem_sites_self
  have opener {k : Nat} (exist : k + 1 < (lower source root).scopes.count) :
      ∃ p, (lower source root).tree.openers[k]? = some p := by
    rw [count_lower] at exist
    exact ⟨_, List.getElem?_eq_getElem (Nat.lt_of_succ_lt_succ exist)⟩
  constructor
  case root_scope => exact records.scopeOf? whole rootHere
  case scope_of_child =>
    intro i inside notRoot
    obtain ⟨S, hS, rfl⟩ := exists_site_lower inside
    rcases Site.exists_parent hS with same | ⟨Q, hQ, child⟩
    · subst same
      exact absurd rfl notRoot
    · refine ⟨Q.index, Site.index_lt_of_mem_children child, ?_,
        scopeOf?_lower_of_mem_children source hQ child⟩
      rw [records.parent? whole hS, Site.parent_of_mem_children child]
      rfl
  case scope_exists =>
    intro i inside
    obtain ⟨S, hS, rfl⟩ := exists_site_lower inside
    exact ⟨S.scope, scope_lt_count source hS, records.scopeOf? whole hS⟩
  case root_kind => exact (root_lower source root).1
  case root_parent => exact (root_lower source root).2
  case count_eq => exact count_lower source root
  case opened_eq =>
    intro k p h
    exact opened_lower source h
  case chain_ends =>
    intro s exist
    apply ScopeTree.getLast?_chainFrom (root_lower source root).2 ?_ _ s (Nat.le_of_lt exist) exist
    intro s inner exist
    obtain ⟨k, rfl⟩ : ∃ k, s = k + 1 := ⟨s - 1, by omega⟩
    obtain ⟨p, place⟩ := opener exist
    obtain ⟨_, outer, less, _, parent⟩ := opened_lower source place
    exact ⟨outer, less, parent⟩

end Lowering
end CrossReference
