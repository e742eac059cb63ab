import CrossReference.Proofs.Lowering.Declaring
import CrossReference.Proofs.Lowering.ScopeStructure
import CrossReference.Proofs.Scope.Lookup

set_option autoImplicit false

/-!
# The table of declarations

Lowering declares the names of the binders, in the order in which it leaves their sites, and the
first declaration of a name in a scope stands. So a name is declared in a scope exactly when some
binder binds it there: `lookupLocal?_lower`.
-/
namespace CrossReference

namespace Lowering

/-- What a list of binders says of a name in a scope: the first that binds it there decides. -/
def declared (source : String) (binders : List Binder) (s : ScopeId) (name : String) :
    Option ElementIndex :=
  (binders.find? fun b => b.scope = s ∧ name ∈ b.pattern.names.map (Site.text source)).map
    Binder.declaring

def Table (source : String) (binders : List Binder) (σ : Lowering) : Prop :=
  ∀ s name, σ.scopes.lookupLocal? s name = declared source binders s name

section
variable {source : String} {root : ParseNode} {entered : List Site} {σ : Lowering} {S : Site}
  {known : List Binder}

theorem Table.congr {σ' : Lowering} (h : Table source known σ)
    (same : σ'.scopes.definitions = σ.scopes.definitions) : Table source known σ' := by
  intro s name
  rw [← h s name, ScopeTree.lookupLocal?, ScopeTree.lookupLocal?, same]

theorem define_table (h : Table source known σ) (records : Records source entered σ)
    (inOrder : entered <+: root.allSites) {b : Binder} (inside : b.pattern.sites ⊆ entered)
    (parent : b.pattern.parent.isSome) :
    Table source (known ++ [b]) (σ.define b.scope b.pattern.index b.declaring) := by
  intro s name
  have names := records.markPattern_names inOrder inside parent .declaration
  show ((σ.tree.markPattern b.pattern.index .declaration).1.foldl
    (fun t name => t.define b.scope name b.declaring) σ.scopes).lookupLocal? s name = _
  rw [ScopeTree.lookupLocal?_foldl_define, h s name, names, declared, declared, List.find?_append,
    Option.map_or]
  congr 1
  by_cases binds : b.scope = s ∧ name ∈ b.pattern.names.map (Site.text source)
  · rw [if_pos binds, List.find?_cons_of_pos (by exact decide_eq_true binds)]
    rfl
  · rw [if_neg binds, List.find?_cons_of_neg (by simpa using binds)]
    rfl

theorem defineAll_table (h : Table source known σ) (records : Records source entered σ)
    (inOrder : entered <+: root.allSites) {binders : List Binder}
    (inside : ∀ b ∈ binders, b.pattern.sites ⊆ entered ∧ b.pattern.parent.isSome) :
    Table source (known ++ binders) (σ.defineAll binders) := by
  induction binders generalizing σ known with
  | nil => rwa [List.append_nil]
  | cons b rest ih =>
    obtain ⟨sites, parent⟩ := inside b List.mem_cons_self
    rw [List.append_cons]
    exact ih (define_table h records inOrder sites parent) ((define_keeps ..).records records)
      fun b hb => inside b (List.mem_cons_of_mem _ hb)

end

section
variable {source : String} {root : ParseNode} {entered : List Site} {σ : Lowering} {S : Site}
  {known : List Binder} {p : Nat} {kind : String}

theorem enter_definitions (σ : Lowering) (source : String) (n : ParseNode) (p : ElementIndex)
    (kind : String) : (σ.enter source n p kind).scopes.definitions = σ.scopes.definitions := by
  rw [enter]
  cases scopeOpened? n kind <;> rfl

theorem leave_table (slot : Slot) (h : Table source known σ) (records : Records source entered σ)
    (stands : StandsAt { slot with around := S.inside } σ) (wf : root.WellFormed)
    (inOrder : entered <+: root.allSites) (inside : S.sites ⊆ entered)
    (parent : S.parent = some (p, kind)) :
    Table source (known ++ S.binders) (σ.leave S.node S.index kind) := by
  have here := ParseNode.getElem?_of_entered inOrder (inside S.mem_sites_self)
  have patterns (b : Binder) (hb : b ∈ S.binders) := Site.pattern_of_mem_binders inside hb
  have shaped := (records.giveShape_keeps here).records records
  have inner := defineAll_table (h.congr (congrArg _ (giveShape_scopes ..))) shaped inOrder
    fun b hb => patterns b (List.mem_append_left _ hb)
  have between := ((markAll_keeps _ S.innerTargets .write).records
    ((defineAll_keeps _ S.innerBinders).records shaped)).closeScope (scopeOpened? S.node kind)
  have outside := inner.congr (congrArg _ ((renameAll_scopes _ S.renamed).trans
    ((closeScope_scopes _ (scopeOpened? S.node kind)).trans
      (markAll_scopes _ S.innerTargets .write))))
  have outer := defineAll_table outside ((renameAll_keeps ..).records between) inOrder
    fun b hb => patterns b (List.mem_append_right _ hb)
  rw [leave_eq slot records stands wf inOrder inside parent, Site.binders, ← List.append_assoc]
  exact outer.congr (congrArg _ (markAll_scopes ..))

end

theorem table_kept (source : String) {root : ParseNode} (wf : root.WellFormed) :
    Kept source root.allSites fun _ left σ => Table source (left.flatMap Site.binders) σ where
  enter := by
    intro before left S σ p kind _ _ reached
    exact reached.holds.congr (enter_definitions ..)
  leave := by
    intro before left S σ p kind slot inOrder _ parent reached
    rw [List.flatMap_append, List.flatMap_singleton]
    exact leave_table slot reached.holds reached.records reached.stands wf inOrder
      (List.subset_append_right _ _) parent

theorem lower_table (source : String) {root : ParseNode} (wf : root.WellFormed) :
    Table source ((ParseNode.leaveOrderIn root.rootSite.below root.children).flatMap Site.binders)
      (lower source root) :=
  (lower_kept (table_kept source wf) fun _ _ => rfl).holds

/-- Some site declares the name in the scope, as the element of that number. -/
def Binds (source : String) (root : ParseNode) (s : ScopeId) (name : String)
    (declaring : ElementIndex) : Prop :=
  ∃ S ∈ root.allSites, ∃ b, S.Declares b ∧ b.scope = s ∧ b.declaring = declaring ∧
    ∃ X, b.pattern.Names X ∧ X.text source = name

/-- The binders found along the way are those of all sites, as the root declares nothing. -/
theorem mem_leaveOrder_binders {root : ParseNode} (program : root.kind = "program") {b : Binder} :
    b ∈ (ParseNode.leaveOrderIn root.rootSite.below root.children).flatMap Site.binders ↔
      ∃ S ∈ root.allSites, S.Declares b := by
  simp only [List.mem_flatMap, ParseNode.mem_leaveOrder_iff, Site.mem_binders_iff]
  constructor
  · rintro ⟨S, ⟨hS, _⟩, declares⟩
    exact ⟨S, hS, declares⟩
  · rintro ⟨S, hS, declares⟩
    refine ⟨S, ⟨hS, fun isRoot => declares.construct_ne ?_⟩, declares⟩
    rw [isRoot, show root.rootSite.node.kind = "program" from program]
    rfl

theorem binds_iff {source : String} {root : ParseNode} (program : root.kind = "program")
    {s : ScopeId} {name : String} {declaring : ElementIndex} :
    Binds source root s name declaring ↔
      ∃ b ∈ (ParseNode.leaveOrderIn root.rootSite.below root.children).flatMap Site.binders,
        (b.scope = s ∧ name ∈ b.pattern.names.map (Site.text source)) ∧
          b.declaring = declaring := by
  simp only [mem_leaveOrder_binders program, Binds, List.mem_map, Site.mem_names_iff]
  constructor
  · rintro ⟨S, hS, b, declares, scope, declaring, names⟩
    exact ⟨b, ⟨S, hS, declares⟩, ⟨scope, names⟩, declaring⟩
  · rintro ⟨b, ⟨S, hS, declares⟩, ⟨scope, names⟩, declaring⟩
    exact ⟨S, hS, b, declares, scope, declaring, names⟩

/-- A name is declared in a scope exactly when some binder binds it there, and then as the element
    of such a binder. -/
theorem lookupLocal?_lower (source : String) {root : ParseNode} (program : root.kind = "program")
    (wf : root.WellFormed) (s : ScopeId) (name : String) :
    (((lower source root).scopes.lookupLocal? s name).isSome ↔
        ∃ declaring, Binds source root s name declaring) ∧
      ∀ declaring, (lower source root).scopes.lookupLocal? s name = some declaring →
        Binds source root s name declaring := by
  rw [lower_table source wf s name, declared]
  constructor
  · rw [Option.isSome_map, List.find?_isSome]
    simp only [decide_eq_true_eq, binds_iff program]
    constructor
    · rintro ⟨b, hb, binds⟩
      exact ⟨b.declaring, b, hb, binds, rfl⟩
    · rintro ⟨_, b, hb, binds, _⟩
      exact ⟨b, hb, binds⟩
  · intro declaring h
    obtain ⟨b, found, eq⟩ := Option.map_eq_some_iff.mp h
    have binds := List.find?_some found
    exact (binds_iff program).mpr
      ⟨b, List.mem_of_find?_eq_some found, of_decide_eq_true binds, eq⟩

theorem lookupLocal?_lower_oneVariable :
    ParseNode.oneVariable.kind = "program" ∧ ParseNode.oneVariable.WellFormed ∧
      ((lower "var x" ParseNode.oneVariable).scopes.lookupLocal? ScopeTree.root "x").isSome := by
  refine ⟨rfl, ParseNode.oneVariable_wellFormed, ?_⟩
  apply (lookupLocal?_lower "var x" rfl ParseNode.oneVariable_wellFormed ScopeTree.root "x").1.mpr
  have declarator : (ParseNode.oneVariable.allSites[2]).Declares
      ⟨ScopeTree.root, ParseNode.oneVariable.allSites[3], 2⟩ :=
    .varDeclarator rfl rfl rfl
  have text : (ParseNode.oneVariable.allSites[3]).text "var x" = "x" := by decide +kernel
  exact ⟨2, ParseNode.oneVariable.allSites[2], List.getElem_mem _, _, declarator, rfl, rfl, _,
    .name List.mem_cons_self, text⟩

end Lowering
end CrossReference
