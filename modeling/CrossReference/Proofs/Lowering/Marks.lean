import CrossReference.Proofs.Element.Role
import CrossReference.Proofs.Lowering.Declaring

set_option autoImplicit false

/-!
# Marks

A site marks names below it: as declarations, as written to, or as names of properties. The rules
are spelt out by kind in `Site.Marks`; `Site.marks` lists what they give. Each element of the
lowered tree has the role of its last mark: `role?_lower`.
-/
namespace CrossReference

namespace Site

inductive Writes (S P : Site) : Prop
  | assignment (kind : S.node.kind ∈ ["assignment_expression", "augmented_assignment_expression"])
      (left : S.field? .left = some P)
  /-- The head of a loop without a keyword declares nothing. -/
  | loopHead (kind : S.node.kind = "for_in_statement") (left : S.field? .left = some P)
      (noWord : S.node.field? .kind = none)

/-- What is imported under an alias, and the alias of what is exported, are names in another
    module. -/
inductive Renames (S X : Site) : Prop
  | imported {A : Site} (kind : S.node.kind = "import_specifier")
      (renamed : S.field? .alias = some A) (name : S.field? .name = some X)
  | exported (kind : S.node.kind = "export_specifier") (name : S.field? .alias = some X)

inductive Marks (S X : Site) : Role → Prop
  | declaration {b : Binder} (declares : S.Declares b) (names : b.pattern.Names X) :
      Marks S X .declaration
  | write {P : Site} (writes : S.Writes P) (names : P.Names X) : Marks S X .write
  | property (renames : S.Renames X) : Marks S X .property

def targets (S : Site) : List Site := S.innerTargets ++ S.outerTargets

def marksOf (patterns : List Site) (role : Role) : List (Nat × Role) :=
  (patterns.flatMap names).map fun X => (X.index, role)

def marks (S : Site) : List (Nat × Role) :=
  S.renamed.map (fun X => (X.index, .property)) ++
    marksOf (S.binders.map Binder.pattern) .declaration ++ marksOf S.targets .write

variable {S P X : Site}

theorem mem_targets_iff : P ∈ S.targets ↔ S.Writes P := by
  constructor
  · intro h
    rw [targets, innerTargets, outerTargets] at h
    rcases List.mem_append.mp h with inner | outer
    · split at inner
      · next loop noWord =>
        exact .loopHead (List.mem_singleton.mp (Construct.mem_kinds_of_eq loop (by decide)))
          (Option.mem_toList.mp inner) noWord
      · cases inner
    · split at outer
      · next assigns =>
        exact .assignment (Construct.mem_kinds_of_eq assigns (by decide))
          (Option.mem_toList.mp outer)
      · cases outer
  · rintro (⟨kind, left⟩ | ⟨kind, left, noWord⟩)
    · have construct : Construct.ofKind S.node.kind = .assignment := Construct.ofKind_of_mem kind
      simp [targets, innerTargets, outerTargets, construct, left]
    · have construct : Construct.ofKind S.node.kind = .forInLoop :=
        Construct.ofKind_of_mem (List.mem_singleton.mpr kind)
      simp [targets, innerTargets, outerTargets, construct, left, noWord]

theorem mem_renamed_iff : X ∈ S.renamed ↔ S.Renames X := by
  constructor
  · intro h
    rw [renamed] at h
    split at h
    · next imports known =>
      exact .imported (List.mem_singleton.mp (Construct.mem_kinds_of_eq imports (by decide))) known
        (Option.mem_toList.mp h)
    · next exports known =>
      rw [List.mem_singleton.mp h]
      exact .exported (List.mem_singleton.mp (Construct.mem_kinds_of_eq exports (by decide))) known
    · cases h
  · rintro (⟨kind, known, name⟩ | ⟨kind, name⟩)
    · have construct : Construct.ofKind S.node.kind = .importSpecifier :=
        Construct.ofKind_of_mem (List.mem_singleton.mpr kind)
      simp [renamed, construct, known, name]
    · have construct : Construct.ofKind S.node.kind = .exportSpecifier :=
        Construct.ofKind_of_mem (List.mem_singleton.mpr kind)
      simp [renamed, construct, name]

theorem mem_marksOf_iff {patterns : List Site} {role : Role} {mark : Nat × Role} :
    mark ∈ marksOf patterns role ↔ ∃ P ∈ patterns, ∃ X, P.Names X ∧ (X.index, role) = mark := by
  simp only [marksOf, List.mem_map, List.mem_flatMap, mem_names_iff]
  constructor
  · rintro ⟨X, ⟨P, hP, names⟩, same⟩
    exact ⟨P, hP, X, names, same⟩
  · rintro ⟨P, hP, X, names, same⟩
    exact ⟨X, ⟨P, hP, names⟩, same⟩

theorem mem_marks_iff {mark : Nat × Role} :
    mark ∈ S.marks ↔ ∃ X, X.index = mark.1 ∧ S.Marks X mark.2 := by
  simp only [marks, List.mem_append, mem_marksOf_iff, List.mem_map, mem_renamed_iff,
    mem_targets_iff, exists_exists_and_eq_and, mem_binders_iff]
  constructor
  · rintro ((⟨X, renames, rfl⟩ | ⟨b, declares, X, names, rfl⟩) | ⟨P, writes, X, names, rfl⟩)
    · exact ⟨X, rfl, .property renames⟩
    · exact ⟨X, rfl, .declaration declares names⟩
    · exact ⟨X, rfl, .write writes names⟩
  · obtain ⟨i, role⟩ := mark
    rintro ⟨X, rfl, given⟩
    cases given with
    | property renames => exact .inl (.inl ⟨X, renames, rfl⟩)
    | declaration declares names => exact .inl (.inr ⟨_, declares, X, names, rfl⟩)
    | write writes names => exact .inr ⟨_, writes, X, names, rfl⟩

/-- No construct both renames and does anything inside, and none declares inside and writes outside,
    so the marks can be listed by role. -/
theorem marks_eq (S : Site) :
    marksOf (S.innerBinders.map Binder.pattern) .declaration ++ marksOf S.innerTargets .write ++
        S.renamed.map (fun X => (X.index, .property)) ++
        marksOf (S.outerBinders.map Binder.pattern) .declaration ++ marksOf S.outerTargets .write =
      S.marks := by
  unfold marks binders targets innerBinders innerTargets renamed outerBinders outerTargets
  cases Construct.ofKind S.node.kind
  case forInLoop => cases S.node.field? .kind <;> simp [marksOf]
  all_goals simp [marksOf]

theorem Writes.mem_children (h : S.Writes P) : P ∈ S.children := by
  cases h with
  | assignment _ left => exact mem_children_of_field? left
  | loopHead _ left => exact mem_children_of_field? left

theorem Renames.mem_children (h : S.Renames X) : X ∈ S.children := by
  cases h with
  | imported _ _ name => exact mem_children_of_field? name
  | exported _ name => exact mem_children_of_field? name

theorem Marks.hosted {role : Role} (h : S.Marks X role) :
    ∃ Q P, S.Hosts Q ∧ P ∈ Q.children ∧ (P.Names X ∨ X = P) := by
  cases h with
  | declaration declares names =>
    obtain ⟨Q, hosts, child⟩ := exists_host_of_declares declares
    exact ⟨Q, _, hosts, child, .inl names⟩
  | write writes names => exact ⟨S, _, .itself, writes.mem_children, .inl names⟩
  | property renames => exact ⟨S, X, .itself, renames.mem_children, .inr rfl⟩

theorem Marks.mem_sites {role : Role} (h : S.Marks X role) : X ∈ S.sites := by
  obtain ⟨Q, P, hosts, child, names | same⟩ := h.hosted
  · exact mem_trans (mem_trans hosts.mem_sites (mem_sites_of_mem_children child)) names.mem_sites
  · rw [same]
    exact mem_trans hosts.mem_sites (mem_sites_of_mem_children child)

def startRole? (S : Site) : Option Role := S.parent.bind fun _ => initialRole? S.node.kind

theorem Names.exists_startRole? (h : P.Names X) (parent : P.parent.isSome) :
    ∃ role, X.startRole? = some role := by
  obtain ⟨p, known⟩ := Option.isSome_iff_exists.mp (parent_isSome_of_mem parent h.mem_sites)
  obtain ⟨role, initial⟩ := initialRole?_of_mem_names (mem_names_iff.mpr h)
  exact ⟨role, by rw [startRole?, known, Option.bind_some, initial]⟩

end Site

namespace Lowering

section
variable {source : String} {root : ParseNode} {entered : List Site} {σ : Lowering} {S : Site}
  {p : Nat} {kind : String}

theorem markAll_tree (records : Records source entered σ) (inOrder : entered <+: root.allSites)
    {patterns : List Site} (inside : ∀ P ∈ patterns, P.sites ⊆ entered) (role : Role) :
    (σ.markAll patterns role).tree = σ.tree.setRoles (Site.marksOf patterns role) := by
  induction patterns generalizing σ with
  | nil => rfl
  | cons P rest ih =>
    have first : (σ.mark P.index role).tree =
        σ.tree.setRoles (P.names.map fun X => (X.index, role)) := by
      show (σ.tree.boundElements P.index).foldl (fun t i => t.setRole i role) σ.tree = _
      rw [records.boundElements inOrder (inside P List.mem_cons_self), ElementTree.setRoles,
        List.foldl_map, List.foldl_map]
    have later := ih ((mark_keeps σ P.index role).records records)
      fun P hP => inside P (List.mem_cons_of_mem _ hP)
    rw [Site.marksOf, List.flatMap_cons, List.map_append, ElementTree.setRoles_append, ← first]
    exact later

theorem defineAll_tree (records : Records source entered σ) (inOrder : entered <+: root.allSites)
    {binders : List Binder} (inside : ∀ b ∈ binders, b.pattern.sites ⊆ entered) :
    (σ.defineAll binders).tree =
      σ.tree.setRoles (Site.marksOf (binders.map Binder.pattern) .declaration) := by
  -- in the tree a definition is a mark
  have marked (σ σ' : Lowering) (same : σ.tree = σ'.tree) :
      (σ.defineAll binders).tree = (σ'.markAll (binders.map Binder.pattern) .declaration).tree := by
    clear inside
    induction binders generalizing σ σ' with
    | nil => exact same
    | cons b rest ih =>
      apply ih (σ.define b.scope b.pattern.index b.declaring) (σ'.mark b.pattern.index .declaration)
      exact congrArg (fun t => (ElementTree.markPattern t b.pattern.index .declaration).2) same
  rw [marked σ σ rfl, markAll_tree records inOrder]
  intro P hP
  obtain ⟨b, hb, rfl⟩ := List.mem_map.mp hP
  exact inside b hb

theorem renameAll_tree (σ : Lowering) (names : List Site) :
    (σ.renameAll names).tree =
      σ.tree.setRoles (names.map fun X => (X.index, .property)) := by
  induction names generalizing σ with
  | nil => rfl
  | cons X rest ih => exact ih (σ.setRole X.index .property)

theorem closeScope_tree (σ : Lowering) (kind : Option ScopeKind) :
    (σ.closeScope kind).tree = σ.tree := by
  cases kind <;> rfl

theorem leave_tree (slot : Slot) (records : Records source entered σ)
    (stands : StandsAt { slot with around := S.inside } σ) (wf : root.WellFormed)
    (inOrder : entered <+: root.allSites) (inside : S.sites ⊆ entered)
    (parent : S.parent = some (p, kind)) :
    (σ.leave S.node S.index kind).tree =
      (σ.giveShape S.node S.index).tree.setRoles S.marks := by
  have here := ParseNode.getElem?_of_entered inOrder (inside S.mem_sites_self)
  have patterns (b : Binder) (hb : b ∈ S.binders) := (Site.pattern_of_mem_binders inside hb).1
  have targets (P : Site) (hP : P ∈ S.targets) : P.sites ⊆ entered :=
    List.Subset.trans
      (Site.infix_of_mem_children (Site.mem_targets_iff.mp hP).mem_children).subset inside
  have shaped := (records.giveShape_keeps here).records records
  have declared := (defineAll_keeps _ S.innerBinders).records shaped
  have between := ((markAll_keeps _ S.innerTargets .write).records declared).closeScope
    (scopeOpened? S.node kind)
  have renamed := (renameAll_keeps _ S.renamed).records between
  have declaredOutside := (defineAll_keeps _ S.outerBinders).records renamed
  rw [leave_eq slot records stands wf inOrder inside parent,
    markAll_tree declaredOutside inOrder fun P hP => targets P (List.mem_append_right _ hP),
    defineAll_tree renamed inOrder fun b hb => patterns b (List.mem_append_right _ hb),
    renameAll_tree, closeScope_tree,
    markAll_tree declared inOrder fun P hP => targets P (List.mem_append_left _ hP),
    defineAll_tree shaped inOrder fun b hb => patterns b (List.mem_append_left _ hb),
    ← Site.marks_eq]
  simp only [ElementTree.setRoles_append]

theorem Records.giveShape_role? (records : Records source entered σ)
    (here : entered[S.index]? = some S) (i : Nat) :
    (σ.giveShape S.node S.index).tree.role? i = σ.tree.role? i := by
  rw [giveShape]
  split
  · next shape given =>
    obtain ⟨construct, noName⟩ := of_shape?_eq_some given
    exact ElementTree.role?_setShape _ _ _ _ noName (records.nameless here construct)
  · rfl

theorem enter_role? (stands : StandsAt S.toSlot σ) (parent : S.parent = some (p, kind)) (i : Nat) :
    (σ.enter source S.node p kind).tree.role? i =
      if i = S.index then S.startRole? else σ.tree.role? i := by
  rw [enter, openScope_tree]
  show (σ.tree.push p S.node.kind (some S.node.span) (leafShape source S.node)).role? i = _
  rw [← stands.size]
  rcases Nat.lt_trichotomy i σ.tree.size with before | here | beyond
  · rw [if_neg (Nat.ne_of_lt before), ElementTree.role?_push_of_lt _ _ _ _ _ before]
  · rw [if_pos here, here, ElementTree.role?, ElementTree.element?_push_size, Option.bind_some,
      Site.startRole?, parent, Option.bind_some]
    unfold Element.role? leafShape
    cases initialRole? S.node.kind <;> rfl
  · have absent (t : ElementTree) (small : t.size ≤ i) : t.role? i = none := by
      rw [ElementTree.role?, (ElementTree.element?_eq_none_iff t i).mpr small]
      rfl
    rw [if_neg (Nat.ne_of_gt beyond), absent _ (Nat.le_of_lt beyond), absent]
    rw [ElementTree.size_push]
    exact beyond

end

/-- Each site that has been entered has the role that the marks so far give it. -/
structure Marked (entered left : List Site) (σ : Lowering) : Prop where
  known : ∀ mark ∈ left.flatMap Site.marks, mark.1 < entered.length
  role?_eq : ∀ X ∈ entered, σ.tree.role? X.index =
    X.startRole?.map fun role => roleAfter X.index role (left.flatMap Site.marks)

theorem marked_kept (source : String) {root : ParseNode} (wf : root.WellFormed) :
    Kept source root.allSites Marked where
  enter := by
    intro before left S σ p kind inOrder parent reached
    have known := reached.holds.known
    have number : before.length = S.index := reached.length
    have early : before <+: root.allSites := (List.prefix_append _ _).trans inOrder
    refine ⟨?_, ?_⟩
    · intro mark hm
      rw [List.length_append]
      exact Nat.lt_add_right _ (known mark hm)
    · intro X hX
      rw [enter_role? reached.stands parent]
      rcases List.mem_append.mp hX with old | new
      · have less := ParseNode.index_lt_of_entered early old
        rw [if_neg (by omega), reached.holds.role?_eq X old]
      · rw [List.mem_singleton.mp new, if_pos rfl]
        -- nothing has been marked yet that is entered only now
        have unmarked (role : Role) : roleAfter S.index role (left.flatMap Site.marks) = role := by
          apply roleAfter_eq ?_ (.inl rfl)
          intro mark hm same
          have less := known mark hm
          omega
        simp only [unmarked, Option.map_id']
  leave := by
    intro before left S σ p kind slot inOrder number parent reached
    have inside : S.sites ⊆ before ++ S.sites := List.subset_append_right _ _
    have here := ParseNode.getElem?_of_entered inOrder (inside S.mem_sites_self)
    refine ⟨?_, ?_⟩
    · intro mark hm
      rw [List.flatMap_append, List.flatMap_singleton] at hm
      rcases List.mem_append.mp hm with old | new
      · exact reached.holds.known mark old
      · obtain ⟨X, same, marks⟩ := Site.mem_marks_iff.mp new
        rw [← same]
        exact ParseNode.index_lt_of_entered inOrder (inside marks.mem_sites)
    · intro X hX
      rw [leave_tree slot reached.records reached.stands wf inOrder inside parent,
        ElementTree.role?_setRoles, reached.records.giveShape_role? here,
        reached.holds.role?_eq X hX, Option.map_map, List.flatMap_append, List.flatMap_singleton]
      congr 1
      funext role
      exact (roleAfter_append ..).symm

def marksMade (root : ParseNode) : List (Nat × Role) :=
  (ParseNode.leaveOrderIn root.rootSite.below root.children).flatMap Site.marks

theorem role?_lower (source : String) {root : ParseNode} (wf : root.WellFormed) {X : Site}
    (hX : X ∈ root.allSites) : (lower source root).tree.role? X.index =
      X.startRole?.map fun role => roleAfter X.index role (marksMade root) := by
  have start : Marked [root.rootSite] [] (Lowering.start root) := by
    refine ⟨fun _ hm => (nomatch hm), ?_⟩
    intro X hX
    rw [List.mem_singleton.mp hX]
    rfl
  exact (lower_kept (marked_kept source wf) start).holds.role?_eq X hX

end Lowering
end CrossReference
