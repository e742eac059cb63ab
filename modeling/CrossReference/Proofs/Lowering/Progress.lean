import CrossReference.Lowering.WorkStack
import CrossReference.Proofs.Lowering.Keeps
import CrossReference.Proofs.Lowering.Site
import CrossReference.Proofs.Scope.Nested

set_option autoImplicit false

/-!
# The progress of lowering

What the state of lowering holds at each moment is told by the sites that have been entered so far.
A property that each entry and each leaving of a site keeps holds when lowering is done:
`lower_kept`.
-/
namespace CrossReference

namespace Site

/-- The text of a node, empty where its span is no part of the source. -/
def text (source : String) (S : Site) : String :=
  (Text.slice? source S.node.span.start.toNat S.node.span.stop.toNat).getD ""

/-- The outline of the element that a node becomes. The root has no name, whatever its kind. -/
def outline (source : String) (S : Site) : Element.Outline where
  kind := S.node.kind
  position := .at S.node.span
  parent := S.parent.map Prod.fst
  name? := S.parent.bind fun _ => (initialRole? S.node.kind).map fun _ => S.text source

def scopeRecord? (S : Site) : Option Scope := S.opened?.map fun kind => ⟨kind, some S.scope⟩

end Site

namespace Lowering

structure StandsAt (slot : Slot) (σ : Lowering) : Prop where
  size : σ.tree.size = slot.index
  count : σ.scopes.count = slot.nextScope
  openScopes : σ.openScopes = slot.around.map Prod.fst
  nested : σ.scopes.Nested slot.around

structure Records (source : String) (entered : List Site) (σ : Lowering) : Prop where
  outlines : σ.tree.outlines = entered.map (Site.outline source)
  linked : σ.tree.Linked
  scopes : σ.scopes.scopes.toList = ⟨.module, none⟩ :: entered.filterMap Site.scopeRecord?
  places : ∀ i : Nat, σ.scopes.scopeOf? i = entered[i]?.map fun S => S.scope
  elements : ∀ m : Nat, σ.elements[m]? =
    (entered.reverse.find? fun S => S.node.number = m).map fun S => S.index

theorem StandsAt.currentScope {slot : Slot} {σ : Lowering} (h : StandsAt slot σ) :
    σ.currentScope = slot.scope := by
  rw [Lowering.currentScope, Slot.scope, h.openScopes, List.head?_map]

theorem Keeps.standsAt {slot : Slot} {σ σ' : Lowering} (keeps : Keeps σ σ') (h : StandsAt slot σ) :
    StandsAt slot σ' where
  size := by
    rw [← ElementTree.length_outlines, keeps.outlines, ElementTree.length_outlines, h.size]
  count := by rw [ScopeTree.count, keeps.scopes]; exact h.count
  openScopes := keeps.openScopes.trans h.openScopes
  nested := ScopeTree.nested_congr keeps.scopes h.nested

theorem Keeps.records {source : String} {entered : List Site} {σ σ' : Lowering}
    (keeps : Keeps σ σ') (h : Records source entered σ) : Records source entered σ' where
  outlines := keeps.outlines.trans h.outlines
  linked := keeps.linked h.linked
  scopes := by rw [keeps.scopes]; exact h.scopes
  places i := by rw [ScopeTree.scopeOf?, keeps.places]; exact h.places i
  elements m := by rw [keeps.elements]; exact h.elements m

theorem Records.length {source : String} {entered : List Site} {σ : Lowering}
    (h : Records source entered σ) : σ.tree.size = entered.length := by
  rw [← ElementTree.length_outlines, h.outlines, List.length_map]

theorem leafShape_name (source : String) (S : Site) (p : Nat) (position : Position) :
    Element.name? ⟨S.node.kind, position, some p, #[], leafShape source S.node⟩ =
      (initialRole? S.node.kind).map fun _ => S.text source := by
  unfold leafShape Site.text
  cases initialRole? S.node.kind <;> rfl

theorem openScope_tree (σ : Lowering) (kind : Option ScopeKind) :
    (σ.openScope kind).tree = σ.tree := by
  cases kind <;> rfl

theorem openScope_elements (σ : Lowering) (kind : Option ScopeKind) :
    (σ.openScope kind).elements = σ.elements := by
  cases kind <;> rfl

theorem openScope_places (σ : Lowering) (kind : Option ScopeKind) :
    (σ.openScope kind).scopes.places = σ.scopes.places := by
  cases kind <;> rfl

theorem scopeOpened?_eq {S : Site} {p : Nat} {kind : String} (parent : S.parent = some (p, kind)) :
    scopeOpened? S.node kind = S.opened? := by
  rw [scopeOpened?, Construct.scope?_ofKind, Site.opened?, parent]
  rfl

theorem enter_standsAt {source : String} {S : Site} {p : Nat} {kind : String} {σ : Lowering}
    (parent : S.parent = some (p, kind)) (h : StandsAt S.toSlot σ) :
    StandsAt S.below (σ.enter source S.node p kind) := by
  have size : (σ.place source S.node p).tree.size = S.index + 1 :=
    (ElementTree.size_push ..).trans (congrArg (· + 1) h.size)
  have sameScopes : (σ.place source S.node p).scopes.scopes = σ.scopes.scopes := rfl
  have nested := ScopeTree.nested_congr sameScopes h.nested
  have scope : (σ.place source S.node p).currentScope = S.scope := h.currentScope
  have count : (σ.place source S.node p).scopes.count = S.nextScope := h.count
  rw [enter, scopeOpened?_eq parent]
  unfold Site.below Site.inside
  cases S.opened? with
  | none => exact ⟨size, count, h.openScopes, nested⟩
  | some opened =>
    refine ⟨size, ?_, ?_, ?_⟩
    · exact (ScopeTree.count_addScope ..).trans (congrArg (· + 1) count)
    · show (σ.place source S.node p).scopes.count :: σ.openScopes = _
      rw [count, h.openScopes]
      rfl
    · show (ScopeTree.addScope _ (σ.place source S.node p).currentScope opened).Nested _
      rw [scope, ← count]
      cases around : S.around with
      | nil =>
        rw [around] at nested
        exact nested.elim
      | cons outer rest =>
        rw [around] at nested
        rw [Slot.scope, around]
        exact ScopeTree.nested_cons_addScope nested opened

theorem enter_records {source : String} {S : Site} {p : Nat} {kind : String} {σ : Lowering}
    {entered : List Site} (parent : S.parent = some (p, kind)) (before : p < S.index)
    (stands : StandsAt S.toSlot σ) (h : Records source entered σ) :
    Records source (entered ++ [S]) (σ.enter source S.node p kind) := by
  have length : entered.length = S.index := h.length.symm.trans stands.size
  have scope : (σ.place source S.node p).currentScope = S.scope := stands.currentScope
  refine ⟨?_, ?_, ?_, ?_, ?_⟩
  · rw [enter, openScope_tree, List.map_append, ← h.outlines]
    refine (ElementTree.outlines_push ..).trans (congrArg (σ.tree.outlines ++ [·]) ?_)
    rw [Element.outline, leafShape_name, Site.outline, parent]
    rfl
  · rw [enter, openScope_tree]
    exact ElementTree.linked_push h.linked p (by rw [stands.size]; exact before)
      S.node.kind (some S.node.span) (leafShape source S.node)
  · rw [enter, scopeOpened?_eq parent, List.filterMap_append, List.filterMap_cons,
      List.filterMap_nil, Site.scopeRecord?]
    cases S.opened? with
    | none =>
      rw [Option.map_none, List.append_nil]
      exact h.scopes
    | some opened =>
      show (σ.scopes.scopes.push ⟨opened, some (σ.place source S.node p).currentScope⟩).toList = _
      rw [Array.toList_push, h.scopes, scope]
      rfl
  · intro i
    rw [ScopeTree.scopeOf?, enter, openScope_places]
    refine (ScopeTree.scopeOf?_assign σ.scopes σ.tree.size i σ.currentScope).trans ?_
    rw [stands.size, stands.currentScope, h.places i]
    split
    · next same => rw [← same, ← length, List.getElem?_concat_length]; rfl
    · next other =>
      rcases Nat.lt_or_gt_of_ne (Ne.symm other) with small | large
      · rw [List.getElem?_append_left (by rw [length]; exact small)]
      · rw [List.getElem?_eq_none (by rw [length]; omega), List.getElem?_eq_none]
        rw [List.length_append, List.length_singleton]
        omega
  · intro m
    rw [enter, openScope_elements]
    show (σ.elements.insert S.node.number σ.tree.size)[m]? = _
    rw [Std.TreeMap.getElem?_insert, List.reverse_append, stands.size]
    simp only [List.reverse_cons, List.reverse_nil, List.nil_append, List.singleton_append,
      List.find?_cons, Std.LawfulEqCmp.compare_eq_iff_eq]
    by_cases same : S.node.number = m
    · simp [same]
    · simp [same, h.elements]

section
variable {source : String} {S : Site} {p : Nat} {kind : String} {σ : Lowering}
  {entered : List Site}

theorem Records.nameless (h : Records source entered σ) (here : entered[S.index]? = some S)
    (construct : Construct.ofKind S.node.kind ≠ .other) (e : Element)
    (found : σ.tree.element? S.index = some e) : e.name? = none := by
  have outline := ElementTree.getElem?_outlines σ.tree S.index
  rw [h.outlines, List.getElem?_map, here, found, Option.map_some, Option.map_some] at outline
  have name := congrArg Element.Outline.name? (Option.some.inj outline)
  cases start : initialRole? S.node.kind with
  | some role => exact absurd (Construct.ofKind_of_initialRole start) construct
  | none =>
    rw [Site.outline, start] at name
    refine name.symm.trans ?_
    cases S.parent <;> rfl

theorem Records.giveShape_keeps (h : Records source entered σ) (here : entered[S.index]? = some S) :
    Keeps σ (σ.giveShape S.node S.index) :=
  Lowering.giveShape_keeps σ S.node S.index (h.nameless here)

theorem closeScope_progress (slot : Slot) (parent : S.parent = some (p, kind))
    (stands : StandsAt { slot with around := S.inside } σ) (h : Records source entered σ)
    (around : S.around ≠ []) :
    StandsAt { slot with around := S.around } (σ.closeScope (scopeOpened? S.node kind)) ∧
      Records source entered (σ.closeScope (scopeOpened? S.node kind)) := by
  rw [scopeOpened?_eq parent]
  unfold Site.inside at stands
  cases opened : S.opened? with
  | none =>
    rw [opened] at stands
    exact ⟨stands, h⟩
  | some kind =>
    rw [opened] at stands
    refine ⟨⟨stands.size, stands.count, ?_, ?_⟩, h.outlines, h.linked, h.scopes, h.places,
      h.elements⟩
    · show σ.openScopes.tail = _
      rw [stands.openScopes]
      rfl
    · have nested := stands.nested
      cases list : S.around with
      | nil => exact absurd list around
      | cons outer rest =>
        simp only [list] at nested ⊢
        exact ScopeTree.nested_tail nested

theorem leave_progress (slot : Slot) (parent : S.parent = some (p, kind))
    (stands : StandsAt { slot with around := S.inside } σ) (h : Records source entered σ)
    (here : entered[S.index]? = some S) (around : S.around ≠ []) :
    StandsAt { slot with around := S.around } (σ.leave S.node S.index kind) ∧
      Records source entered (σ.leave S.node S.index kind) := by
  have declared := (h.giveShape_keeps here).trans (declareInner_keeps _ S.node S.index)
  obtain ⟨stands, records⟩ :=
    closeScope_progress slot parent (declared.standsAt stands) (declared.records h) around
  have outer := declareOuter_keeps
    (((σ.giveShape S.node S.index).declareInner S.node S.index).closeScope
      (scopeOpened? S.node kind)) S.node S.index kind
  exact ⟨outer.standsAt stands, outer.records records⟩

end

/-- What has been entered and left before a place, and a property of that moment. -/
structure Reached (source : String) (P : List Site → List Site → Lowering → Prop) (slot : Slot)
    (entered left : List Site) (σ : Lowering) : Prop where
  stands : StandsAt slot σ
  records : Records source entered σ
  holds : P entered left σ

/-- Entering and leaving a site keep a property, wherever the site is among all of them. -/
structure Kept (source : String) (all : List Site)
    (P : List Site → List Site → Lowering → Prop) : Prop where
  enter : ∀ {before left : List Site} {S : Site} {σ : Lowering} (p : Nat) (kind : String),
    before ++ S.sites <+: all → S.parent = some (p, kind) →
    Reached source P S.toSlot before left σ →
    P (before ++ [S]) left (σ.enter source S.node p kind)
  leave : ∀ {before left : List Site} {S : Site} {σ : Lowering} (p : Nat) (kind : String)
    (slot : Slot), before ++ S.sites <+: all → before.length = S.index →
    S.parent = some (p, kind) →
    Reached source P { slot with around := S.inside } (before ++ S.sites) left σ →
    P (before ++ S.sites) (left ++ [S]) (σ.leave S.node S.index kind)

section
variable {source : String} {all : List Site} {P : List Site → List Site → Lowering → Prop}

theorem Reached.length {slot : Slot} {entered left : List Site} {σ : Lowering}
    (h : Reached source P slot entered left σ) : entered.length = slot.index :=
  h.records.length.symm.trans h.stands.size

mutual
/-- Lowering a node enters and leaves its sites and nothing else. -/
theorem lowerNode_kept (kept : Kept source all P) : (n : ParseNode) → (slot : Slot) →
    (p : Nat) → (kind : String) → {before left : List Site} → {σ : Lowering} →
    slot.parent = some (p, kind) → p < slot.index → before ++ n.sites slot <+: all →
    Reached source P slot before left σ →
    Reached source P (slot.after (n.sites slot)) (before ++ n.sites slot)
      (left ++ n.leaveOrder slot) (lowerNode source p kind σ n)
  | .mk head fields children, slot, p, kind, before, left, σ, parent, less, inside, h => by
    let S : Site := ⟨slot, .mk head fields children⟩
    have sites : S.sites = S :: ParseNode.sitesIn S.below children :=
      ParseNode.sites_eq slot S.node
    have size : σ.tree.size = S.index := h.stands.size
    have entered : Reached source P S.below (before ++ [S]) left (σ.enter source S.node p kind) :=
      ⟨enter_standsAt parent h.stands, enter_records parent less h.stands h.records,
        kept.enter p kind inside parent h⟩
    -- what is below `S` is lowered in the state in which `S` has been entered
    have below := lowerNodes_kept kept children S.below S.index head.kind rfl
      (Nat.lt_succ_self S.index)
      (by rw [List.append_assoc, List.singleton_append, ← sites]; exact inside) entered
    rw [List.append_assoc, List.singleton_append, ← sites] at below
    have here : (before ++ S.sites)[S.index]? = some S := by
      rw [← show before.length = S.index from h.length, S.sites_eq]
      exact List.getElem?_append_right (Nat.le_refl _) |>.trans (by simp)
    have around : S.around ≠ [] := by
      intro none
      have nested := h.stands.nested
      rw [none] at nested
      exact nested
    let done : Slot := S.below.after (ParseNode.sitesIn S.below children)
    have place : S.toSlot.after S.sites = { done with parent := S.parent, around := S.around } := by
      rw [sites, S.after_below]
    -- the place is the one after the last site below, outside `S` again
    obtain ⟨stands, records⟩ :=
      leave_progress done parent below.stands below.records here around
    have holds := kept.leave p kind done inside h.length parent below
    rw [ParseNode.leaveOrder_eq, lowerNode, ← List.append_assoc, size]
    show Reached source P (S.toSlot.after S.sites) (before ++ S.sites) _ _
    rw [place]
    exact ⟨⟨stands.size, stands.count, stands.openScopes, stands.nested⟩, records, holds⟩

theorem lowerNodes_kept (kept : Kept source all P) : (list : List ParseNode) → (slot : Slot) →
    (p : Nat) → (kind : String) → {before left : List Site} → {σ : Lowering} →
    slot.parent = some (p, kind) → p < slot.index →
    before ++ ParseNode.sitesIn slot list <+: all → Reached source P slot before left σ →
    Reached source P (slot.after (ParseNode.sitesIn slot list))
      (before ++ ParseNode.sitesIn slot list) (left ++ ParseNode.leaveOrderIn slot list)
      (lowerNodes source p kind σ list)
  | [], slot, p, kind, before, left, σ, _, _, _, h => by
    rw [ParseNode.sitesIn, ParseNode.leaveOrderIn, lowerNodes, List.append_nil, List.append_nil]
    exact h
  | n :: rest, slot, p, kind, before, left, σ, parent, less, inside, h => by
    rw [ParseNode.sitesIn] at inside ⊢
    rw [ParseNode.leaveOrderIn, lowerNodes]
    split
    · next element =>
      rw [if_pos element, ← List.append_assoc] at inside
      have first := lowerNode_kept kept n slot p kind parent less
        ((List.prefix_append _ _).trans inside) h
      have later := lowerNodes_kept kept rest (slot.after (n.sites slot)) p kind parent
        (Nat.lt_of_lt_of_le less (Nat.le_add_right _ _)) inside first
      rw [Slot.after_append, ← List.append_assoc, ← List.append_assoc]
      exact later
    · next other =>
      rw [if_neg other] at inside
      exact lowerNodes_kept kept rest slot p kind parent less inside h
end

theorem start_reached (source : String) (root : ParseNode) (h : P [root.rootSite] [] (start root)) :
    Reached source P root.rootSite.below [root.rootSite] [] (start root) := by
  have stands : StandsAt root.rootSite.below (start root) :=
    ⟨rfl, rfl, rfl, ScopeTree.nested_new⟩
  refine ⟨stands, ⟨rfl, ElementTree.linked_new root.kind (some root.span), rfl, ?_, ?_⟩, h⟩
  · intro i
    refine (ScopeTree.scopeOf?_assign ..).trans ?_
    cases i with
    | zero => rfl
    | succ i => rfl
  · intro m
    show ((∅ : Std.TreeMap Nat ElementIndex).insert root.number ElementTree.root)[m]? = _
    rw [Std.TreeMap.getElem?_insert]
    by_cases same : root.number = m <;> simp [ParseNode.rootSite, Slot.first, same]

/-- What holds at the start and is kept by each entry and each leaving holds when all is done. -/
theorem lower_kept {root : ParseNode} (kept : Kept source root.allSites P)
    (h : P [root.rootSite] [] (start root)) :
    Reached source P
      (root.rootSite.below.after (ParseNode.sitesIn root.rootSite.below root.children))
      root.allSites (ParseNode.leaveOrderIn root.rootSite.below root.children)
      (lower source root) := by
  have sites : root.allSites =
      root.rootSite :: ParseNode.sitesIn root.rootSite.below root.children :=
    ParseNode.sites_eq Slot.first root
  have done := lowerNodes_kept kept root.children root.rootSite.below ElementTree.root root.kind rfl
    Nat.zero_lt_one ⟨[], (List.append_nil _).trans sites.symm⟩ (start_reached source root h)
  rw [List.singleton_append, ← sites, List.nil_append] at done
  rw [lower_eq_lowerTree]
  exact done

theorem lower_records (source : String) (root : ParseNode) :
    Records source root.allSites (lower source root) :=
  (lower_kept (P := fun _ _ _ => True) ⟨fun _ _ _ _ _ => trivial, fun _ _ _ _ _ _ _ => trivial⟩
    trivial).records
end

end Lowering
end CrossReference
