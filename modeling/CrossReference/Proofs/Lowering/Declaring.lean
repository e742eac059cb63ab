import CrossReference.Proofs.Lowering.Binders

set_option autoImplicit false

/-!
# What is declared on leaving a site

When lowering leaves a site it declares the names of its binders, and besides it marks the names
that the site writes to and those that it renames: `declareInner_eq` and `declareOuter_eq`.
-/
namespace CrossReference

namespace Site

/-- The head of a loop without a keyword is no declaration, the loop writes to its names. -/
def innerTargets (S : Site) : List Site :=
  match Construct.ofKind S.node.kind, S.node.field? .kind with
  | .forInLoop, none => (S.field? .left).toList
  | _, _ => []

def outerTargets (S : Site) : List Site :=
  match Construct.ofKind S.node.kind with
  | .assignment => (S.field? .left).toList
  | _ => []

def renamed (S : Site) : List Site :=
  match Construct.ofKind S.node.kind, S.field? .alias with
  | .importSpecifier, some _ => (S.field? .name).toList
  | .exportSpecifier, some outside => [outside]
  | _, _ => []

variable {S P : Site}

theorem mem_children_of_field? {f : Field} (h : S.field? f = some P) : P ∈ S.children := by
  obtain ⟨c, _, found⟩ := Option.bind_eq_some_iff.mp h
  exact List.mem_of_find?_eq_some found

/-- The patterns of a site are just below it, or just below the list of its parameters. -/
inductive Hosts (S : Site) : Site → Prop
  | itself : Hosts S S
  | parameters {Q : Site} (kind : S.node.kind ∈ functionKinds)
      (list : S.field? .parameters = some Q) : Hosts S Q

theorem Hosts.mem_sites {Q : Site} (h : S.Hosts Q) : Q ∈ S.sites := by
  cases h with
  | itself => exact S.mem_sites_self
  | parameters _ list => exact mem_sites_of_mem_children (mem_children_of_field? list)

theorem exists_host_of_mem_parameters (kind : S.node.kind ∈ functionKinds) (h : P ∈ S.parameters) :
    ∃ Q, S.Hosts Q ∧ P ∈ Q.children := by
  rw [parameters] at h
  split at h
  · cases list : S.field? .parameters with
    | none => rw [list] at h; cases h
    | some Q =>
      rw [list] at h
      exact ⟨Q, .parameters kind list, h⟩
  · exact ⟨S, .itself, mem_children_of_field? (Option.mem_toList.mp h)⟩

theorem exists_host_of_declares {b : Binder} (h : S.Declares b) :
    ∃ Q, S.Hosts Q ∧ b.pattern ∈ Q.children := by
  have field {f : Field} {P : Site} (found : S.field? f = some P) :
      ∃ Q, S.Hosts Q ∧ P ∈ Q.children := ⟨S, .itself, mem_children_of_field? found⟩
  cases h with
  | parameter kind part => exact exists_host_of_mem_parameters kind part
  | functionExpression kind name => exact field name
  | classExpression kind name => exact field name
  | caught kind parameter => exact field parameter
  | loopHead kind left => exact field left
  | varLoopHead kind left => exact field left
  | functionDeclaration kind name => exact field name
  | classDeclaration kind name => exact field name
  | declarator kind target => exact field target
  | varDeclarator kind target => exact field target
  | importSpecifier kind name =>
    rcases Option.or_eq_some_iff.mp name with renamed | ⟨_, own⟩
    · exact field renamed
    · exact field own
  | namespaceImport kind part => exact ⟨S, .itself, part⟩
  | defaultImport kind part => exact ⟨S, .itself, part⟩

theorem pattern_of_mem_binders {entered : List Site} (inside : S.sites ⊆ entered) {b : Binder}
    (h : b ∈ S.binders) : b.pattern.sites ⊆ entered ∧ b.pattern.parent.isSome := by
  obtain ⟨Q, hosts, child⟩ := exists_host_of_declares (mem_binders_iff.mp h)
  refine ⟨?_, by rw [parent_of_mem_children child]; rfl⟩
  have below := (infix_of_mem (mem_trans hosts.mem_sites (mem_sites_of_mem_children child))).subset
  exact List.Subset.trans below inside

theorem inside_ne_nil (h : S.around ≠ []) : S.inside ≠ [] := by
  rw [inside]
  cases S.opened? with
  | none => exact h
  | some kind => exact List.cons_ne_nil _ _

theorem around_ne_nil {root : ParseNode} (hS : S ∈ root.allSites) : S.around ≠ [] := by
  induction hS using sites_induction with
  | here => exact List.cons_ne_nil _ _
  | step Q _ around C hC =>
    rw [around_of_mem_children hC]
    exact inside_ne_nil around

end Site

namespace Lowering

def defineAll (σ : Lowering) (binders : List Binder) : Lowering :=
  binders.foldl (fun σ b => σ.define b.scope b.pattern.index b.declaring) σ

def markAll (σ : Lowering) (patterns : List Site) (role : Role) : Lowering :=
  patterns.foldl (fun σ P => σ.mark P.index role) σ

def renameAll (σ : Lowering) (names : List Site) : Lowering :=
  names.foldl (fun σ X => σ.setRole X.index .property) σ

theorem define?_eq (σ : Lowering) (scope : ScopeId) (pattern : Option Site) (declaring : Nat) :
    σ.define? scope (pattern.map (·.index)) declaring =
      σ.defineAll (pattern.toList.map fun P => ⟨scope, P, declaring⟩) := by
  cases pattern <;> rfl

theorem defineEach_eq (σ : Lowering) (scope : ScopeId) (patterns : List Site) :
    σ.defineEach scope (patterns.map (·.index)) =
      σ.defineAll (patterns.map fun P => ⟨scope, P, P.index⟩) := by
  rw [defineEach, defineAll, List.foldl_map, List.foldl_map]

theorem defineAll_append (σ : Lowering) (a b : List Binder) :
    σ.defineAll (a ++ b) = (σ.defineAll a).defineAll b := List.foldl_append

theorem defineAll_keeps (σ : Lowering) (binders : List Binder) : Keeps σ (σ.defineAll binders) :=
  foldl_keeps (fun σ (b : Binder) => σ.define b.scope b.pattern.index b.declaring)
    (fun _ _ => define_keeps ..) binders σ

theorem markAll_keeps (σ : Lowering) (patterns : List Site) (role : Role) :
    Keeps σ (σ.markAll patterns role) :=
  foldl_keeps (fun σ (P : Site) => σ.mark P.index role) (fun _ _ => mark_keeps ..) patterns σ

theorem renameAll_keeps (σ : Lowering) (names : List Site) : Keeps σ (σ.renameAll names) :=
  foldl_keeps (fun σ (X : Site) => σ.setRole X.index .property) (fun _ _ => setRole_keeps ..)
    names σ

theorem markAll_scopes (σ : Lowering) (patterns : List Site) (role : Role) :
    (σ.markAll patterns role).scopes = σ.scopes := by
  induction patterns generalizing σ with
  | nil => rfl
  | cons P rest ih => exact ih (σ.mark P.index role)

theorem renameAll_scopes (σ : Lowering) (names : List Site) :
    (σ.renameAll names).scopes = σ.scopes := by
  induction names generalizing σ with
  | nil => rfl
  | cons X rest ih => exact ih (σ.setRole X.index .property)

theorem giveShape_scopes (σ : Lowering) (n : ParseNode) (i : ElementIndex) :
    (σ.giveShape n i).scopes = σ.scopes := by
  rw [giveShape]
  split <;> rfl

theorem closeScope_scopes (σ : Lowering) (kind : Option ScopeKind) :
    (σ.closeScope kind).scopes = σ.scopes := by
  cases kind <;> rfl

theorem Records.closeScope {source : String} {entered : List Site} {σ : Lowering}
    (h : Records source entered σ) (kind : Option ScopeKind) :
    Records source entered (σ.closeScope kind) := by
  cases kind with
  | none => exact h
  | some kind => exact ⟨h.outlines, h.linked, h.scopes, h.places, h.elements⟩

theorem varScope_of_nested {t : ScopeTree} {slot : Slot} (nested : t.Nested slot.around) :
    t.varScope slot.scope = slot.varScope := by
  rw [Slot.scope, Slot.varScope]
  cases around : slot.around with
  | nil =>
    rw [around] at nested
    exact nested.elim
  | cons first rest =>
    rw [around] at nested
    exact ScopeTree.varScope_of_nested nested

theorem StandsAt.varScope {slot : Slot} {σ : Lowering} (h : StandsAt slot σ) :
    σ.scopes.varScope σ.currentScope = slot.varScope := by
  rw [h.currentScope, varScope_of_nested h.nested]

section
variable {source : String} {root : ParseNode} {entered : List Site} {σ : Lowering} {S : Site}
  {p : Nat} {kind : String}

theorem Records.identifierChildren (h : Records source entered σ) (wf : root.WellFormed)
    (inOrder : entered <+: root.allSites) (inside : S.sites ⊆ entered) :
    (S.node.elementChildren.filter fun child => child.kind = "identifier").filterMap σ.elementOf? =
      (S.children.filter fun P => P.node.kind = "identifier").map (·.index) := by
  rw [← S.map_node_children, List.filter_map, List.filterMap_map, ← List.filterMap_eq_map]
  apply List.filterMap_congr
  intro C hC
  have child := (List.mem_filter.mp hC).1
  exact h.elementOf? wf inOrder (inside (Site.mem_sites_of_mem_children child))

theorem declareInner_eq (slot : Slot) (records : Records source entered σ)
    (stands : StandsAt { slot with around := S.inside } σ) (wf : root.WellFormed)
    (inOrder : entered <+: root.allSites) (inside : S.sites ⊆ entered)
    (parent : S.parent = some (p, kind)) :
    σ.declareInner S.node S.index = (σ.defineAll S.innerBinders).markAll S.innerTargets .write := by
  have opened : S.opened? = (Construct.ofKind S.node.kind).scope? kind :=
    (scopeOpened?_eq parent).symm
  have field (f : Field) := records.fieldOf? wf inOrder inside f
  have parameters := records.parameters wf inOrder inside
  have scope {opens : ScopeKind} (h : S.opened? = some opens) : σ.currentScope = S.nextScope := by
    rw [stands.currentScope, Slot.scope, Site.inside, h]
    rfl
  rw [Site.innerBinders, Site.innerTargets, declareInner]
  cases construct : Construct.ofKind S.node.kind
  all_goals rw [construct] at opened; simp only
  case functionDeclaration | namelessFunction =>
    rw [scope opened, parameters, defineEach_eq]
    rfl
  case functionExpression =>
    rw [scope opened, parameters, defineEach_eq, field, define?_eq, ← defineAll_append]
    rfl
  case classExpression =>
    rw [scope opened, field, define?_eq]
    rfl
  case catchClause =>
    rw [scope opened, field]
    cases S.field? .parameter <;> rfl
  case forInLoop =>
    have varScope : σ.scopes.varScope S.nextScope = S.varScope := by
      rw [← scope opened, stands.varScope, Slot.varScope, Slot.varScope, Site.inside, opened]
      rfl
    rw [scope opened, field, varScope]
    cases S.field? .left with
    | none => cases S.node.field? .kind <;> rfl
    | some P =>
      cases S.node.field? .kind with
      | none => rfl
      | some keyword =>
        by_cases var : keyword.kind = "var"
        · simp only [var, if_true, Option.map_some]
          rfl
        · simp only [if_neg var, Option.map_some]
          rfl
  all_goals rfl

theorem declareOuter_eq (slot : Slot) (records : Records source entered σ)
    (stands : StandsAt { slot with around := S.around } σ) (wf : root.WellFormed)
    (inOrder : entered <+: root.allSites) (inside : S.sites ⊆ entered)
    (parent : S.parent = some (p, kind)) :
    σ.declareOuter S.node S.index kind =
      ((σ.renameAll S.renamed).defineAll S.outerBinders).markAll S.outerTargets .write := by
  have field (f : Field) := records.fieldOf? wf inOrder inside f
  have scope : σ.currentScope = S.scope := stands.currentScope
  have varScope : σ.scopes.varScope S.scope = S.varScope := by
    rw [← scope]
    exact stands.varScope
  rw [Site.outerBinders, Site.outerTargets, Site.renamed, declareOuter, scope, varScope]
  cases Construct.ofKind S.node.kind
  case functionDeclaration | classDeclaration =>
    simp only
    rw [field, define?_eq]
    rfl
  case declarator =>
    have var : S.parent.map Prod.snd = some "variable_declaration" ↔
        kind = "variable_declaration" := by
      rw [parent, Option.map_some, Option.some_inj]
    simp only [var]
    rw [field, define?_eq]
    rfl
  case importSpecifier =>
    simp only
    rw [field, field]
    cases S.field? .alias with
    | none => cases S.field? .name <;> rfl
    | some P => cases S.field? .name <;> rfl
  case namespaceImport =>
    simp only
    rw [records.childElements wf inOrder inside, List.foldl_map, defineAll, List.foldl_map]
    rfl
  case importClause =>
    simp only
    rw [records.identifierChildren wf inOrder inside, defineEach_eq]
    rfl
  case exportSpecifier =>
    simp only
    rw [field]
    cases S.field? .alias <;> rfl
  case assignment =>
    simp only
    rw [field]
    cases S.field? .left <;> rfl
  all_goals rfl

theorem leave_eq (slot : Slot) (records : Records source entered σ)
    (stands : StandsAt { slot with around := S.inside } σ) (wf : root.WellFormed)
    (inOrder : entered <+: root.allSites) (inside : S.sites ⊆ entered)
    (parent : S.parent = some (p, kind)) :
    σ.leave S.node S.index kind =
      ((((((σ.giveShape S.node S.index).defineAll S.innerBinders).markAll S.innerTargets
        .write).closeScope (scopeOpened? S.node kind)).renameAll S.renamed).defineAll
          S.outerBinders).markAll S.outerTargets .write := by
  have here := ParseNode.getElem?_of_entered inOrder (inside S.mem_sites_self)
  have around := Site.around_ne_nil (inOrder.subset (inside S.mem_sites_self))
  have shaped := records.giveShape_keeps here
  have declared := shaped.trans (declareInner_keeps _ S.node S.index)
  obtain ⟨standsOutside, recordsOutside⟩ := closeScope_progress slot parent
    (declared.standsAt stands) (declared.records records) around
  rw [leave, declareOuter_eq slot recordsOutside standsOutside wf inOrder inside parent,
    declareInner_eq slot (shaped.records records) (shaped.standsAt stands) wf inOrder inside parent]

end

end Lowering
end CrossReference
