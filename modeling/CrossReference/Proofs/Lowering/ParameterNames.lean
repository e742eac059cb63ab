import CrossReference.Proofs.Analysis.Contained
import CrossReference.Proofs.Lowering.Resolution
import CrossReference.Proofs.Lowering.Shapes

set_option autoImplicit false

/-!
# What a parameter is called

A parameter is called by the first identifier in it. That is the first name that it binds, unless a
computed key or the default value of a pattern that binds nothing stands before it:
`bindingName?_lower`.
-/
namespace CrossReference

namespace Site

section
variable (t : ElementTree)

/-- The identifiers in a site from left to right. Names of properties are passed over, and nothing
    below an identifier counts. -/
def identifiers (S : Site) : List Site :=
  match t.role? S.index with
  | some .property => []
  | some _ => [S]
  | none => S.children.attach.flatMap fun C => C.1.identifiers
termination_by sizeOf S.node
decreasing_by exact sizeOf_node_lt C.2

def callers (S : Site) : List Site :=
  if (t.role? S.index).isSome then [S] else S.children.flatMap (identifiers t)

/-- A pattern in which no identifier stands before the first name that it binds. -/
inductive BindsFirst : Site → Prop
  | name {P : Site}
      (kind : P.node.kind ∈ ["identifier", "shorthand_property_identifier_pattern"]) : BindsFirst P
  | part {P : Site} (kind : P.node.kind ∈ ["object_pattern", "array_pattern", "rest_pattern"])
      (each : ∀ C ∈ P.children, BindsFirst C) : BindsFirst P
  /-- What has a default value binds a name, or else there is no identifier in the value. -/
  | withDefault {P C : Site} {value : List Site}
      (kind : P.node.kind ∈ ["assignment_pattern", "object_assignment_pattern"])
      (children : P.children = C :: value) (first : BindsFirst C)
      (named : C.names ≠ [] ∨ value.flatMap (identifiers t) = []) : BindsFirst P
  /-- There is no identifier in the key. -/
  | pair {P C : Site} {key : List Site} (kind : P.node.kind = "pair_pattern")
      (children : P.children = key ++ [C]) (plain : key.flatMap (identifiers t) = [])
      (last : BindsFirst C) : BindsFirst P
  | none {P : Site} (role : t.role? P.index = none)
      (empty : P.children.flatMap (identifiers t) = []) : BindsFirst P

variable {t} {S P : Site}

theorem identifiers_of_property (role : t.role? S.index = some .property) :
    S.identifiers t = [] := by
  rw [identifiers, role]

theorem identifiers_of_role {role : Role} (given : t.role? S.index = some role)
    (ne : role ≠ .property) : S.identifiers t = [S] := by
  rw [identifiers, given]
  cases role with
  | property => exact absurd rfl ne
  | _ => rfl

theorem identifiers_of_none (role : t.role? S.index = none) :
    S.identifiers t = S.children.flatMap (identifiers t) := by
  rw [identifiers, role]
  simp

theorem callers_of_none (role : t.role? S.index = none) : S.callers t = S.identifiers t := by
  rw [callers, role, identifiers_of_none role]
  rfl

theorem identifiers_sublist_callers (t : ElementTree) (S : Site) :
    (S.identifiers t).Sublist (S.callers t) := by
  cases role : t.role? S.index with
  | none =>
    rw [callers_of_none role]
  | some given =>
    have own : S.callers t = [S] := by
      rw [callers, role]
      rfl
    rw [own]
    by_cases property : given = .property
    · rw [identifiers_of_property (property ▸ role)]
      exact List.nil_sublist _
    · rw [identifiers_of_role role property]

/-- A pattern whose names have been declared, and whose other parts have no roles. -/
structure Declared (t : ElementTree) (P : Site) : Prop where
  declaration : ∀ X ∈ P.names, t.role? X.index = some .declaration
  roleless : ∀ X ∈ P.sites, PatternForm.ofKind X.node.kind ∉ [.name, .nothing] →
    t.role? X.index = none

theorem Declared.part {C : Site} (h : P.Declared t) (other : PatternForm.ofKind P.node.kind ≠ .name)
    (part : C ∈ P.patternParts) : C.Declared t := by
  constructor
  · intro X hX
    apply h.declaration X
    rw [names_of_ne other]
    exact List.mem_flatMap.mpr ⟨C, part, hX⟩
  · intro X hX
    have child := P.patternParts_sublist.subset part
    exact h.roleless X ((infix_of_mem_children child).subset hX)

theorem Declared.role_of_name (h : P.Declared t) (name : PatternForm.ofKind P.node.kind = .name) :
    t.role? P.index = some .declaration :=
  h.declaration P (by rw [names_of_name name]; exact List.mem_singleton_self P)

theorem Declared.of_form {form : PatternForm} (h : P.Declared t)
    (eq : PatternForm.ofKind P.node.kind = form) (parts : form ∉ [.name, .nothing]) :
    P.identifiers t = P.children.flatMap (identifiers t) ∧
      P.names = P.patternParts.flatMap names ∧ ∀ C ∈ P.patternParts, C.Declared t := by
  have other : PatternForm.ofKind P.node.kind ≠ .name := by
    intro name
    exact parts (by simp [← eq, name])
  exact ⟨identifiers_of_none (h.roleless P P.mem_sites_self (eq ▸ parts)), names_of_ne other,
    fun C part => h.part other part⟩

theorem Declared.names_sublist (h : P.Declared t) : P.names.Sublist (P.identifiers t) := by
  induction P using children_induction with
  | step P ih =>
    by_cases name : PatternForm.ofKind P.node.kind = .name
    · rw [names_of_name name, identifiers_of_role (h.role_of_name name) (by decide)]
    by_cases nothing : PatternForm.ofKind P.node.kind = .nothing
    · rw [names_of_ne name, patternParts, nothing]
      exact List.nil_sublist _
    obtain ⟨identifiers, names, declared⟩ := h.of_form rfl (by simp [name, nothing])
    have each (C : Site) (part : C ∈ P.patternParts) : C.names.Sublist (C.identifiers t) :=
      ih C (P.patternParts_sublist.subset part) (declared C part)
    rw [identifiers, names]
    exact (List.Sublist.flatMap_right _ each).trans (P.patternParts_sublist.flatMap _)

theorem findSome?_congr {α β : Type} {f g : α → Option β} {list : List α}
    (same : ∀ a ∈ list, f a = g a) : list.findSome? f = list.findSome? g := by
  induction list with
  | nil => rfl
  | cons a rest ih =>
    obtain ⟨first, later⟩ := List.forall_mem_cons.mp same
    rw [List.findSome?_cons, List.findSome?_cons, first, ih later]

/-- In such a pattern the first identifier is the first name, or there is neither. -/
theorem BindsFirst.head?_eq (h : P.BindsFirst t) (declared : P.Declared t) :
    (P.identifiers t).head? = P.names.head? := by
  induction h with
  | @name P kind =>
    have name : PatternForm.ofKind P.node.kind = .name := PatternForm.ofKind_of_mem kind
    rw [names_of_name name, identifiers_of_role (declared.role_of_name name) (by decide)]
  | @part P kind each ih =>
    have form : PatternForm.ofKind P.node.kind = .allChildren := PatternForm.ofKind_of_mem kind
    obtain ⟨identifiers, names, parts⟩ := declared.of_form form (by decide)
    have all : P.patternParts = P.children := by rw [patternParts, form]
    rw [all] at names parts
    rw [identifiers, names, List.head?_flatMap, List.head?_flatMap]
    exact findSome?_congr fun C child => ih C child (parts C child)
  | @withDefault P C value kind children first named ih =>
    have form : PatternForm.ofKind P.node.kind = .firstChild := PatternForm.ofKind_of_mem kind
    obtain ⟨identifiers, names, parts⟩ := declared.of_form form (by decide)
    have only : P.patternParts = [C] := by
      rw [patternParts, form, children]
      rfl
    rw [only] at names parts
    rw [identifiers, names, children, List.flatMap_cons, List.flatMap_singleton,
      List.head?_append, ih (parts C List.mem_cons_self)]
    rcases named with bound | plain
    · obtain ⟨X, rest, split⟩ := List.exists_cons_of_ne_nil bound
      rw [split]
      rfl
    · rw [plain, List.head?_nil, Option.or_none]
  | @pair P C key kind children plain last ih =>
    have form : PatternForm.ofKind P.node.kind = .lastChild :=
      PatternForm.ofKind_of_mem (List.mem_singleton.mpr kind)
    obtain ⟨identifiers, names, parts⟩ := declared.of_form form (by decide)
    have only : P.patternParts = [C] := by
      rw [patternParts, form, children, List.getLast?_concat]
      rfl
    rw [only] at names parts
    rw [identifiers, names, children, List.flatMap_append, plain, List.nil_append,
      List.flatMap_singleton, List.flatMap_singleton]
    exact ih (parts C List.mem_cons_self)
  | @none P role empty =>
    have identifiers : P.identifiers t = [] := by rw [identifiers_of_none role, empty]
    have names := declared.names_sublist
    rw [identifiers, List.sublist_nil] at names
    rw [identifiers, names]

theorem BindsFirst.callers_eq (h : P.BindsFirst t) (declared : P.Declared t) :
    P.callers t = P.identifiers t := by
  have parts (form : PatternForm) (kind : P.node.kind ∈ form.kinds)
      (pattern : form ∉ [.name, .nothing]) : P.callers t = P.identifiers t := by
    apply callers_of_none
    apply declared.roleless P P.mem_sites_self
    rwa [PatternForm.ofKind_of_mem kind]
  cases h with
  | name kind =>
    have name : PatternForm.ofKind P.node.kind = .name := PatternForm.ofKind_of_mem kind
    have role := declared.role_of_name name
    rw [callers, identifiers_of_role role (by decide), role]
    rfl
  | part kind => exact parts .allChildren kind (by decide)
  | withDefault kind => exact parts .firstChild kind (by decide)
  | pair kind => exact parts .lastChild (List.mem_singleton.mpr kind) (by decide)
  | none role => exact callers_of_none role

end
end Site

namespace Lowering

/-- What is found first: one of the identifiers of a site, or else what is found further on. -/
def Finds (source : String) (t : ElementTree) (identifiers : List Site) (stack : List Nat)
    (result : Option String) : Prop :=
  match identifiers with
  | X :: _ => result = some (X.text source)
  | [] => t.FindsName stack result

section
variable {source : String} {root : ParseNode} {S : Site} {stack : List Nat}
  {result : Option String}

theorem finds_flatMap {t : ElementTree} {list : List Site}
    (each : ∀ C ∈ list, ∀ stack result, t.FindsName (C.index :: stack) result →
      Finds source t (C.identifiers t) stack result)
    (h : t.FindsName (list.map (·.index) ++ stack) result) :
    Finds source t (list.flatMap (Site.identifiers t)) stack result := by
  induction list with
  | nil => exact h
  | cons C rest ih =>
    have first := each C List.mem_cons_self _ _ h
    rw [List.flatMap_cons]
    cases found : C.identifiers t with
    | cons X more =>
      rw [found] at first
      exact first
    | nil =>
      rw [found] at first
      exact ih (fun D hD => each D (List.mem_cons_of_mem _ hD)) first

theorem finds_identifiers (hS : S ∈ root.allSites)
    (h : (lower source root).tree.FindsName (S.index :: stack) result) :
    Finds source (lower source root).tree (S.identifiers (lower source root).tree) stack
      result := by
  induction S using Site.children_induction generalizing stack result with
  | step S ih =>
    cases h with
    | property found shape rest =>
      have given := (ElementTree.role?_eq found).trans (Element.role?_eq_some_iff.mpr ⟨_, shape⟩)
      rw [Site.identifiers_of_property given]
      exact rest
    | name found shape ne =>
      have given := (ElementTree.role?_eq found).trans (Element.role?_eq_some_iff.mpr ⟨_, shape⟩)
      obtain ⟨e, found', text⟩ := shape_of_role? hS given
      obtain rfl := Option.some.inj (found.symm.trans found')
      cases shape.symm.trans text
      rw [Site.identifiers_of_role given ne]
      rfl
    | deeper found nameless rest =>
      have none := (ElementTree.role?_eq found).trans (Element.role?_eq_none_iff.mpr nameless)
      rw [children_lower hS found] at rest
      rw [Site.identifiers_of_none none]
      exact finds_flatMap (fun C hC stack result =>
        ih C hC (Site.mem_trans hS (Site.mem_sites_of_mem_children hC))) rest

theorem Finds.eq_head? {t : ElementTree} {identifiers : List Site}
    (h : Finds source t identifiers [] result) :
    result = identifiers.head?.map (Site.text source) := by
  cases identifiers with
  | cons X rest => exact h
  | nil =>
    cases h
    rfl

theorem bindingName?_eq_head? (source : String) (hS : S ∈ root.allSites) :
    (lower source root).tree.bindingName? S.index =
      some ((S.callers (lower source root).tree).head?.map (Site.text source)) := by
  obtain ⟨e, found, _⟩ := element_lower source hS
  have role := ElementTree.role?_eq found
  cases given : e.role? with
  | some r =>
    obtain ⟨e', found', shape⟩ := shape_of_role? hS (role.trans given)
    obtain rfl := Option.some.inj (found.symm.trans found')
    have name : e.name? = some (S.text source) := by rw [Element.name?, shape]
    rw [Site.callers, role, given, ElementTree.bindingName?, found, Option.bind_eq_bind,
      Option.bind_some, name]
    rfl
  | none =>
    have nameless := Element.role?_eq_none_iff.mp given
    obtain ⟨result, named⟩ : ∃ result,
        (lower source root).tree.bindingName? S.index = some result :=
      ⟨_, by rw [ElementTree.bindingName?, found, Option.bind_eq_bind, Option.bind_some, nameless]⟩
    obtain ⟨_, found', own | ⟨_, search⟩⟩ := (lower_searched source root).bindingName _ _ named
    · obtain rfl := Option.some.inj (found.symm.trans found')
      rw [nameless] at own
      cases own.1
    · obtain rfl := Option.some.inj (found.symm.trans found')
      rw [children_lower hS found, ← List.append_nil (S.children.map _)] at search
      have finds := finds_flatMap (fun C hC stack result =>
        finds_identifiers (Site.mem_trans hS (Site.mem_sites_of_mem_children hC))) search
      have roleless := role.trans given
      rw [named, finds.eq_head?, Site.callers_of_none roleless, Site.identifiers_of_none roleless]

theorem declared_of_declares (source : String) (wf : root.WellFormed)
    (left : S ∈ ParseNode.leaveOrderIn root.rootSite.below root.children) {b : Binder}
    (declares : S.Declares b) : b.pattern.Declared (lower source root).tree := by
  have inside := (Site.pattern_of_mem_binders (List.Subset.refl _)
    (Site.mem_binders_iff.mpr declares)).1
  constructor
  · intro X hX
    exact role?_of_declares source wf left declares (Site.mem_names_iff.mp hX)
  · intro X hX parts
    simp only [List.mem_cons, List.not_mem_nil, or_false, not_or] at parts
    have kind := (PatternForm.mem_kinds_ofKind X.node.kind).resolve_left parts.2
    have hS := (ParseNode.mem_leaveOrder_iff.mp left).1
    rw [role?_lower source wf (Site.mem_trans hS (inside hX)), Site.startRole?,
      PatternForm.initialRole?_of_mem kind parts.1]
    cases X.parent <;> rfl

/-- What a parameter is called and what it binds. -/
structure CalledByNames (source : String) (t : ElementTree) (P : Site) : Prop where
  names_eq : (t.markPattern P.index .declaration).1 = P.names.map (Site.text source)
  called : t.bindingName? P.index = some ((P.callers t).head?.map (Site.text source))
  names_sublist : P.names.Sublist (P.callers t)
  nameless : t.bindingName? P.index = some none → (t.markPattern P.index .declaration).1 = []
  eq_first : P.BindsFirst t →
    t.bindingName? P.index = some (t.markPattern P.index .declaration).1.head?

theorem calledByNames (hP : S ∈ root.allSites) (parent : S.parent.isSome)
    (declared : S.Declared (lower source root).tree) :
    CalledByNames source (lower source root).tree S := by
  have names := (lower_records source root).markPattern_names (List.prefix_refl _)
    (Site.infix_of_mem hP).subset parent .declaration
  have called := bindingName?_eq_head? source hP
  have sublist := declared.names_sublist.trans (Site.identifiers_sublist_callers _ S)
  refine ⟨names, called, sublist, ?_, ?_⟩
  · intro none
    rw [called, Option.some_inj, Option.map_eq_none_iff, List.head?_eq_none_iff] at none
    rw [none, List.sublist_nil] at sublist
    rw [names, sublist, List.map_nil]
  · intro first
    rw [called, names, first.callers_eq declared, first.head?_eq declared, List.head?_map]

/-- A parameter of a function is called by the first identifier in it, which is the first name that
    it binds wherever no other identifier stands before that. -/
theorem bindingName?_lower (source : String) (wf : root.WellFormed) {f : Nat} {e : Element}
    (found : (lower source root).tree.element? f = some e) {name body : Option Nat}
    {parameters : List Nat} (shape : e.shape = .function name parameters body) {p : Nat}
    (part : p ∈ parameters) :
    ∃ P ∈ root.allSites, P.index = p ∧ CalledByNames source (lower source root).tree P := by
  obtain ⟨F, hF, rfl, function, parent, parts⟩ := shape_lower_function wf found shape
  obtain ⟨_, rfl, _⟩ := Shape.function.inj (shape.symm.trans parts)
  obtain ⟨P, hP, rfl⟩ := List.mem_map.mp part
  have declares : F.Declares ⟨F.nextScope, P, P.index⟩ := .parameter function hP
  have left : F ∈ ParseNode.leaveOrderIn root.rootSite.below root.children := by
    refine ParseNode.mem_leaveOrder_iff.mpr ⟨hF, ?_⟩
    rintro rfl
    cases parent
  have pattern := Site.pattern_of_mem_binders (Site.infix_of_mem hF).subset
    (Site.mem_binders_iff.mpr declares)
  have inside := pattern.1 P.mem_sites_self
  have declared := declared_of_declares source wf left declares
  exact ⟨P, inside, rfl, calledByNames inside pattern.2 declared⟩

end

def computedKeySource : String := "function f(\x7b[k]:v\x7d)\x7b\x7d"

/-- The parse of that source, where a parameter takes a property out of an object whose name is
    computed. -/
def computedKey : ParseNode :=
  let head (number : Nat) (kind : String) (start stop : UInt64) (isNamed : Bool) : NodeHead :=
    ⟨number, kind, ⟨start, stop⟩, isNamed, false, false, false, false⟩
  let token (number : Nat) (kind : String) (start stop : UInt64) : ParseNode :=
    .mk (head number kind start stop false) [] []
  let leaf (number : Nat) (kind : String) (start stop : UInt64) : ParseNode :=
    .mk (head number kind start stop true) [] []
  let name := leaf 3 "identifier" 9 10
  let key : ParseNode := .mk (head 9 "computed_property_name" 12 15 true) []
    [token 10 "[" 12 13, leaf 11 "identifier" 13 14, token 12 "]" 14 15]
  let value := leaf 14 "identifier" 16 17
  let pair : ParseNode := .mk (head 8 "pair_pattern" 12 17 true) [(.value, value)]
    [key, token 13 ":" 15 16, value]
  let pattern : ParseNode := .mk (head 6 "object_pattern" 11 18 true) []
    [token 7 "\x7b" 11 12, pair, token 15 "\x7d" 17 18]
  let parameters : ParseNode := .mk (head 4 "formal_parameters" 10 19 true) []
    [token 5 "(" 10 11, pattern, token 16 ")" 18 19]
  let body : ParseNode := .mk (head 17 "statement_block" 19 21 true) []
    [token 18 "\x7b" 19 20, token 19 "\x7d" 20 21]
  let function : ParseNode := .mk (head 1 "function_declaration" 0 21 true)
    [(.body, body), (.name, name), (.parameters, parameters)]
    [token 2 "function" 0 8, name, parameters, body]
  .mk (head 0 "program" 0 21 true) [] [function]

theorem computedKey_wellFormed : computedKey.WellFormed := by
  constructor
  · decide
  · simp [computedKey, ParseNode.nodes, ParseNode.nodesIn, ParseNode.fields, ParseNode.children]
    rintro f c (⟨-, rfl⟩ | ⟨-, rfl⟩ | ⟨-, rfl⟩) <;> simp

theorem element?_computedKey : (lower computedKeySource computedKey).tree.element? 1 =
    some ⟨"function_declaration", .at ⟨0, 21⟩, some 0, #[2, 3, 9],
      .function (some 2) [4] (some 9)⟩ := by
  rw [lower_eq_lowerTree]
  decide +kernel

theorem bindingName?_lower_computedKey :
    computedKey.WellFormed ∧
      (lower computedKeySource computedKey).tree.element? 1 =
        some ⟨"function_declaration", .at ⟨0, 21⟩, some 0, #[2, 3, 9],
          .function (some 2) [4] (some 9)⟩ ∧
      ∃ P ∈ computedKey.allSites, P.index = 4 ∧
        CalledByNames computedKeySource (lower computedKeySource computedKey).tree P :=
  ⟨computedKey_wellFormed, element?_computedKey,
    bindingName?_lower computedKeySource computedKey_wellFormed element?_computedKey rfl
      (List.mem_singleton_self 4)⟩

/-- The parameter binds the value and is called by the key. -/
theorem called_by_computed_key : computedKey.WellFormed ∧
    ∃ e, (lower computedKeySource computedKey).tree.element? 1 = some e ∧
      e.shape = .function (some 2) [4] (some 9) ∧
      ((lower computedKeySource computedKey).tree.markPattern 4 .declaration).1 = ["v"] ∧
      (lower computedKeySource computedKey).tree.bindingName? 4 = some (some "k") := by
  refine ⟨computedKey_wellFormed, _, element?_computedKey, rfl, ?_, ?_⟩
  · rw [lower_eq_lowerTree]
    decide +kernel
  · rw [lower_eq_lowerTree]
    decide +kernel

end Lowering
end CrossReference
