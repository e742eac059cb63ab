import CrossReference.Proofs.Lowering.Elements
import Mathlib.Data.List.Flatten
import Mathlib.Data.List.Perm.Subperm

set_option autoImplicit false

/-!
# The names in a pattern

Which identifiers a pattern binds, told by the kinds of the sites in it. Lowering finds the same
ones on its stack, in the same order: `Records.boundElements`.
-/
namespace CrossReference

namespace Site

/-- A pattern binds the name `X` if it is `X`, or if one of its parts binds it. -/
inductive Names : Site → Site → Prop
  | name {P : Site}
      (kind : P.node.kind ∈ ["identifier", "shorthand_property_identifier_pattern"]) : Names P P
  | part {P C X : Site} (kind : P.node.kind ∈ ["object_pattern", "array_pattern", "rest_pattern"])
      (child : C ∈ P.children) (names : Names C X) : Names P X
  /-- The second child is the default value. -/
  | withDefault {P C X : Site}
      (kind : P.node.kind ∈ ["assignment_pattern", "object_assignment_pattern"])
      (child : P.children.head? = some C) (names : Names C X) : Names P X
  /-- The first child is the key. -/
  | pair {P C X : Site} (kind : P.node.kind = "pair_pattern")
      (child : P.children.getLast? = some C) (names : Names C X) : Names P X

def patternParts (S : Site) : List Site :=
  match PatternForm.ofKind S.node.kind with
  | .firstChild => S.children.take 1
  | .lastChild => S.children.getLast?.toList
  | .allChildren => S.children
  | .name | .nothing => []

theorem patternParts_sublist (S : Site) : S.patternParts.Sublist S.children := by
  unfold patternParts
  split
  · exact List.take_sublist 1 _
  · cases last : S.children.getLast? with
    | none => exact List.nil_sublist _
    | some C => exact List.singleton_sublist.mpr (List.mem_of_getLast? last)
  · exact List.Sublist.refl _
  · exact List.nil_sublist _
  · exact List.nil_sublist _

def names (S : Site) : List Site :=
  if PatternForm.ofKind S.node.kind = .name then [S]
  else S.patternParts.attach.flatMap fun part => part.1.names
termination_by sizeOf S.node
decreasing_by
  have child := S.patternParts_sublist.subset part.2
  have inside := List.sizeOf_lt_of_mem (node_mem_of_mem_children child)
  generalize part.1 = C at inside
  rcases S with ⟨slot, head, fields, children⟩
  simp only [ParseNode.children, ParseNode.mk.sizeOf_spec] at inside ⊢
  omega

theorem names_of_name {S : Site} (name : PatternForm.ofKind S.node.kind = .name) :
    S.names = [S] := by
  rw [names, if_pos name]

theorem names_of_ne {S : Site} (other : PatternForm.ofKind S.node.kind ≠ .name) :
    S.names = S.patternParts.flatMap names := by
  rw [names, if_neg other]
  simp

theorem names_subset_sites (S : Site) : S.names ⊆ S.sites := by
  induction S using children_induction with
  | step S ih =>
    intro X hX
    by_cases name : PatternForm.ofKind S.node.kind = .name
    · rw [names_of_name name] at hX
      rw [List.mem_singleton.mp hX]
      exact S.mem_sites_self
    · rw [names_of_ne name] at hX
      obtain ⟨C, part, hX⟩ := List.mem_flatMap.mp hX
      have child := S.patternParts_sublist.subset part
      exact (infix_of_mem_children child).subset (ih C child hX)

end Site

namespace PatternForm

def kinds : PatternForm → List String
  | name => ["identifier", "shorthand_property_identifier_pattern"]
  | firstChild => ["assignment_pattern", "object_assignment_pattern"]
  | lastChild => ["pair_pattern"]
  | allChildren => ["object_pattern", "array_pattern", "rest_pattern"]
  | nothing => []

theorem mem_kinds_ofKind (kind : String) :
    ofKind kind = nothing ∨ kind ∈ (ofKind kind).kinds := by
  unfold ofKind
  split
  all_goals first | exact .inl rfl | exact .inr (by decide)

theorem ofKind_of_mem {kind : String} {form : PatternForm} (h : kind ∈ form.kinds) :
    ofKind kind = form := by
  cases form
  all_goals simp only [kinds, List.mem_cons, List.not_mem_nil, or_false] at h
  all_goals rcases h with rfl | rfl | rfl <;> rfl

theorem ofKind_eq_iff {kind : String} {form : PatternForm} (h : form ≠ nothing) :
    ofKind kind = form ↔ kind ∈ form.kinds := by
  constructor
  · intro eq
    subst eq
    exact (mem_kinds_ofKind kind).resolve_left h
  · exact ofKind_of_mem

theorem ofKind_of_construct {kind : String} (h : Construct.ofKind kind ≠ .other) :
    ofKind kind = nothing := by
  refine (mem_kinds_ofKind kind).resolve_right fun known => h ?_
  generalize ofKind kind = form at known
  cases form
  all_goals simp only [kinds, List.mem_cons, List.not_mem_nil, or_false] at known
  all_goals rcases known with rfl | rfl | rfl <;> rfl

theorem initialRole?_of_mem {kind : String} {form : PatternForm} (h : kind ∈ form.kinds)
    (parts : form ≠ name) : initialRole? kind = none := by
  cases form
  case name => exact absurd rfl parts
  all_goals simp only [kinds, List.mem_cons, List.not_mem_nil, or_false] at h
  all_goals rcases h with rfl | rfl | rfl <;> rfl

end PatternForm

namespace Site

theorem of_names {P X : Site} (h : Names P X) : X ∈ P.names := by
  induction h with
  | name kind =>
    rw [names_of_name (PatternForm.ofKind_of_mem kind)]
    exact List.mem_cons_self
  | @part P C X kind child _ ih =>
    have form : PatternForm.ofKind P.node.kind = .allChildren := PatternForm.ofKind_of_mem kind
    rw [names_of_ne (by rw [form]; decide), patternParts, form]
    exact List.mem_flatMap.mpr ⟨_, child, ih⟩
  | @withDefault P C X kind child _ ih =>
    have form : PatternForm.ofKind P.node.kind = .firstChild := PatternForm.ofKind_of_mem kind
    rw [names_of_ne (by rw [form]; decide), patternParts, form]
    refine List.mem_flatMap.mpr ⟨C, ?_, ih⟩
    obtain ⟨rest, split⟩ := List.head?_eq_some_iff.mp child
    simp [split]
  | @pair P C X kind child _ ih =>
    have form : PatternForm.ofKind P.node.kind = .lastChild :=
      PatternForm.ofKind_of_mem (List.mem_singleton.mpr kind)
    rw [names_of_ne (by rw [form]; decide), patternParts, form]
    refine List.mem_flatMap.mpr ⟨_, ?_, ih⟩
    rw [child]
    exact List.mem_singleton_self _

theorem mem_names_iff {P X : Site} : X ∈ P.names ↔ Names P X := by
  refine ⟨?_, of_names⟩
  induction P using children_induction with
  | step P ih =>
    intro h
    cases form : PatternForm.ofKind P.node.kind
    case name =>
      rw [names_of_name form] at h
      rw [List.mem_singleton.mp h]
      exact .name ((PatternForm.ofKind_eq_iff (by decide)).mp form)
    all_goals
      rw [names_of_ne (by rw [form]; decide)] at h
      obtain ⟨C, part, hX⟩ := List.mem_flatMap.mp h
      have names := ih C (P.patternParts_sublist.subset part) hX
      rw [patternParts, form] at part
    case firstChild =>
      refine .withDefault ((PatternForm.ofKind_eq_iff (by decide)).mp form) ?_ names
      cases children : P.children with
      | nil => rw [children] at part; cases part
      | cons first rest =>
        rw [children] at part
        rw [List.mem_singleton.mp part]
        rfl
    case lastChild =>
      have kind := (PatternForm.ofKind_eq_iff (by decide)).mp form
      exact .pair (List.mem_singleton.mp kind) (Option.mem_toList.mp part) names
    case allChildren => exact .part ((PatternForm.ofKind_eq_iff (by decide)).mp form) part names
    case nothing => cases part

theorem Names.mem_sites {P X : Site} (h : P.Names X) : X ∈ P.sites :=
  P.names_subset_sites (mem_names_iff.mpr h)

theorem Names.kind_mem {P X : Site} (h : P.Names X) :
    X.node.kind ∈ ["identifier", "shorthand_property_identifier_pattern"] := by
  induction h with
  | name kind => exact kind
  | part _ _ _ ih => exact ih
  | withDefault _ _ _ ih => exact ih
  | pair _ _ _ ih => exact ih

theorem initialRole?_of_mem_names {P X : Site} (h : X ∈ P.names) :
    ∃ role, initialRole? X.node.kind = some role := by
  have kind := (mem_names_iff.mp h).kind_mem
  simp only [List.mem_cons, List.not_mem_nil, or_false] at kind
  rcases kind with same | same <;> exact ⟨.read, by rw [same]; rfl⟩

theorem Names.eq_or_initialRole? {P X : Site} (h : P.Names X) :
    X = P ∨ initialRole? P.node.kind = none := by
  cases h with
  | name _ => exact .inl rfl
  | part kind => exact .inr (@PatternForm.initialRole?_of_mem _ .allChildren kind nofun)
  | withDefault kind =>
    exact .inr (@PatternForm.initialRole?_of_mem _ .firstChild kind nofun)
  | pair kind => exact .inr (by rw [kind]; rfl)

theorem parent_isSome_of_mem {S X : Site} (parent : S.parent.isSome) (h : X ∈ S.sites) :
    X.parent.isSome := by
  rcases exists_parent h with same | ⟨Q, _, child⟩
  · rw [same]
    exact parent
  · rw [parent_of_mem_children child]
    rfl

end Site

namespace Lowering

variable {source : String} {root : ParseNode} {entered : List Site} {σ : Lowering} {S : Site}

theorem Records.patternParts (h : Records source entered σ) (inOrder : entered <+: root.allSites)
    (inside : S.sites ⊆ entered) {e : Element} (found : σ.tree.element? S.index = some e) :
    e.patternParts = S.patternParts.map (·.index) := by
  obtain ⟨_, found', outline⟩ := h.element inOrder (inside S.mem_sites_self)
  obtain rfl := Option.some.inj (found.symm.trans found')
  have kind : e.kind = S.node.kind := congrArg Element.Outline.kind outline
  have children := h.children inOrder inside found
  have last : e.children.back? = S.children.getLast?.map (·.index) := by
    rw [← Array.getLast?_toList, children, List.getLast?_map]
  rw [Element.patternParts, Site.patternParts, kind, children, last]
  cases PatternForm.ofKind S.node.kind with
  | firstChild => exact List.map_take.symm
  | lastChild => cases S.children.getLast? <;> rfl
  | _ => rfl

/-- Within a limit of steps the elements on top of the stack leave it, and with them all that they
    put there; these names are what they bind. -/
def Unstacks (t : ElementTree) (top names : List Nat) (limit : Nat) : Prop :=
  ∃ used ≤ limit, ∀ steps stack,
    t.boundFrom (used + steps) (top ++ stack) = names ++ t.boundFrom steps stack

theorem unstacks_nil (t : ElementTree) : Unstacks t [] [] 0 := by
  refine ⟨0, Nat.le_refl 0, ?_⟩
  intro steps stack
  rw [Nat.zero_add]
  rfl

theorem Unstacks.append {t : ElementTree} {a b names names' : List Nat} {limit limit' : Nat}
    (first : Unstacks t a names limit) (later : Unstacks t b names' limit') :
    Unstacks t (a ++ b) (names ++ names') (limit + limit') := by
  obtain ⟨used, short, eq⟩ := first
  obtain ⟨used', short', eq'⟩ := later
  refine ⟨used + used', Nat.add_le_add short short', ?_⟩
  intro steps stack
  rw [Nat.add_assoc, List.append_assoc, eq, eq', List.append_assoc]

theorem unstacks_flatMap {t : ElementTree} {list : List Site}
    (each : ∀ C ∈ list, Unstacks t [C.index] (C.names.map (·.index)) C.sites.length) :
    Unstacks t (list.map (·.index)) ((list.flatMap Site.names).map (·.index))
      (list.flatMap Site.sites).length := by
  induction list with
  | nil => exact unstacks_nil t
  | cons C rest ih =>
    have later := ih fun D hD => each D (List.mem_cons_of_mem _ hD)
    rw [List.flatMap_cons, List.flatMap_cons, List.map_append, List.length_append]
    exact (each C List.mem_cons_self).append later

theorem unstacks_parts {t : ElementTree} {i : Nat} {e : Element} (found : t.element? i = some e)
    (other : ¬e.isPatternName) {names : List Nat} {limit : Nat}
    (parts : Unstacks t e.patternParts names limit) : Unstacks t [i] names (limit + 1) := by
  obtain ⟨used, short, eq⟩ := parts
  refine ⟨used + 1, Nat.succ_le_succ short, ?_⟩
  intro steps stack
  rw [Nat.add_right_comm, List.singleton_append, ElementTree.boundFrom, found]
  simp only [if_neg other]
  exact eq steps stack

theorem unstacks_name {t : ElementTree} {i : Nat} {e : Element} (found : t.element? i = some e)
    (name : e.isPatternName) : Unstacks t [i] [i] 1 := by
  refine ⟨1, Nat.le_refl 1, ?_⟩
  intro steps stack
  rw [Nat.add_comm, List.singleton_append, ElementTree.boundFrom, found]
  simp only [name, if_true]
  rfl

theorem Records.unstacks (h : Records source entered σ) (inOrder : entered <+: root.allSites)
    (inside : S.sites ⊆ entered) :
    Unstacks σ.tree [S.index] (S.names.map (·.index)) S.sites.length := by
  induction S using Site.children_induction with
  | step S ih =>
    obtain ⟨e, found, outline⟩ := h.element inOrder (inside S.mem_sites_self)
    have kind : e.kind = S.node.kind := congrArg Element.Outline.kind outline
    have below (C : Site) (hC : C ∈ S.patternParts) :
        Unstacks σ.tree [C.index] (C.names.map (·.index)) C.sites.length := by
      have child := S.patternParts_sublist.subset hC
      exact ih C child (List.Subset.trans (Site.infix_of_mem_children child).subset inside)
    have length : S.sites.length = (S.children.flatMap Site.sites).length + 1 := by
      rw [S.sites_eq, List.length_cons]
    by_cases name : PatternForm.ofKind S.node.kind = .name
    · rw [Site.names_of_name name]
      obtain ⟨used, short, eq⟩ := unstacks_name found (by simpa [Element.isPatternName, kind])
      exact ⟨used, by omega, eq⟩
    · have parts := unstacks_flatMap below
      rw [← h.patternParts inOrder inside found, ← Site.names_of_ne name] at parts
      have unnamed : ¬e.isPatternName := by simpa [Element.isPatternName, kind]
      obtain ⟨used, short, eq⟩ := unstacks_parts found unnamed parts
      -- the parts are some of the children, so they take no more steps than these
      have fewer := (S.patternParts_sublist.flatMap Site.sites).length_le
      exact ⟨used, by omega, eq⟩

theorem boundFrom_nil (t : ElementTree) (steps : Nat) : t.boundFrom steps [] = [] := by
  cases steps <;> rfl

theorem Records.boundElements (h : Records source entered σ) (inOrder : entered <+: root.allSites)
    (inside : S.sites ⊆ entered) :
    σ.tree.boundElements S.index = S.names.map (·.index) := by
  obtain ⟨used, short, eq⟩ := h.unstacks inOrder inside
  have fits : used ≤ σ.tree.size := by
    rw [h.length]
    exact Nat.le_trans short (List.subperm_of_subset S.nodup_sites inside).length_le
  obtain ⟨rest, size⟩ := Nat.exists_eq_add_of_le fits
  -- steps that are left find the stack empty
  have all := eq rest []
  rw [boundFrom_nil, List.append_nil, List.append_nil] at all
  rw [ElementTree.boundElements, size]
  exact all

/-- The texts that a pattern binds. The root is no pattern, whatever its kind. -/
theorem Records.markPattern_names (h : Records source entered σ)
    (inOrder : entered <+: root.allSites) (inside : S.sites ⊆ entered) (parent : S.parent.isSome)
    (role : Role) :
    (σ.tree.markPattern S.index role).1 = S.names.map (Site.text source) := by
  have each (X : Site) (hX : X ∈ S.names) :
      (σ.tree.element? X.index).bind Element.name? = some (X.text source) := by
    have below := S.names_subset_sites hX
    obtain ⟨e, found, outline⟩ := h.element inOrder (inside below)
    have name : e.name? = (X.outline source).name? := congrArg Element.Outline.name? outline
    obtain ⟨p, hp⟩ := Option.isSome_iff_exists.mp (Site.parent_isSome_of_mem parent below)
    obtain ⟨role, hrole⟩ := Site.initialRole?_of_mem_names hX
    rw [found, Option.bind_some, name, Site.outline, hp, hrole]
    rfl
  show (σ.tree.boundElements S.index).filterMap _ = _
  rw [h.boundElements inOrder inside, List.filterMap_map, ← List.filterMap_eq_map]
  apply List.filterMap_congr
  exact each

end Lowering
end CrossReference
