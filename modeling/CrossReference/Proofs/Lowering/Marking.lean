import CrossReference.Proofs.Element.Role
import CrossReference.Proofs.Element.Walk
import CrossReference.Proofs.Lowering.Pattern

set_option autoImplicit false

/-!
# Marking a pattern

The names of a pattern are marked while they are looked for, so the tree changes under the search.
The changes do not lead it astray: it ends of itself, finds what the recursion over the patterns
binds, from left to right, and changes nothing but the roles of these names: `marked_of_linked`.
-/
namespace CrossReference

namespace Element

inductive BindsThrough (e : Element) : List Nat → Prop
  | all (kind : e.kind ∈ ["object_pattern", "array_pattern", "rest_pattern"]) :
      BindsThrough e e.children.toList
  /-- The second child is the default value. -/
  | first (kind : e.kind ∈ ["assignment_pattern", "object_assignment_pattern"]) :
      BindsThrough e e.children.toList.head?.toList
  /-- The first child is the key. -/
  | last (kind : e.kind = "pair_pattern") : BindsThrough e e.children.toList.getLast?.toList
  | nothing (kind : e.kind ∉ ["identifier", "shorthand_property_identifier_pattern",
      "object_pattern", "array_pattern", "rest_pattern", "assignment_pattern",
      "object_assignment_pattern", "pair_pattern"]) : BindsThrough e []

variable {e : Element} {parts : List Nat}

theorem isPatternName_iff :
    e.isPatternName ↔ e.kind ∈ ["identifier", "shorthand_property_identifier_pattern"] := by
  rw [isPatternName, decide_eq_true_eq, PatternForm.ofKind_eq_iff (by decide)]
  rfl

theorem bindsThrough_iff :
    e.BindsThrough parts ↔ e.isPatternName = false ∧ parts = e.patternParts := by
  constructor
  · intro h
    cases h with
    | all kind =>
      have form : PatternForm.ofKind e.kind = .allChildren := PatternForm.ofKind_of_mem kind
      simp [isPatternName, patternParts, form]
    | first kind =>
      have form : PatternForm.ofKind e.kind = .firstChild := PatternForm.ofKind_of_mem kind
      simp [isPatternName, patternParts, form, List.take_one]
    | last kind =>
      have form : PatternForm.ofKind e.kind = .lastChild :=
        PatternForm.ofKind_of_mem (List.mem_singleton.mpr kind)
      simp [isPatternName, patternParts, form]
    | nothing kind =>
      have form : PatternForm.ofKind e.kind = .nothing := by
        refine (PatternForm.mem_kinds_ofKind e.kind).resolve_right fun known => kind ?_
        generalize PatternForm.ofKind e.kind = form at known
        cases form <;> simp_all [PatternForm.kinds]
      simp [isPatternName, patternParts, form]
  · rintro ⟨other, rfl⟩
    rw [isPatternName, decide_eq_false_iff_not] at other
    rw [patternParts]
    cases form : PatternForm.ofKind e.kind with
    | name => exact absurd form other
    | allChildren => exact .all ((PatternForm.ofKind_eq_iff (by decide)).mp form)
    | firstChild =>
      rw [List.take_one]
      exact .first ((PatternForm.ofKind_eq_iff (by decide)).mp form)
    | lastChild =>
      rw [← Array.getLast?_toList]
      exact .last (List.mem_singleton.mp ((PatternForm.ofKind_eq_iff (by decide)).mp form))
    | nothing =>
      apply BindsThrough.nothing
      intro known
      simp only [List.mem_cons, List.not_mem_nil, or_false] at known
      rcases known with h | h | h | h | h | h | h | h <;> (rw [h] at form; cases form)

theorem BindsThrough.sublist (h : e.BindsThrough parts) : parts.Sublist e.children.toList := by
  cases h with
  | all => exact List.Sublist.refl _
  | first =>
    cases first : e.children.toList.head? with
    | none => exact List.nil_sublist _
    | some c => exact List.singleton_sublist.mpr (List.mem_of_head? first)
  | last =>
    cases last : e.children.toList.getLast? with
    | none => exact List.nil_sublist _
    | some c => exact List.singleton_sublist.mpr (List.mem_of_getLast? last)
  | nothing => exact List.nil_sublist _

def withRole (role : Role) (e : Element) : Element := { e with shape := e.shape.setRole role }

theorem name?_withRole (role : Role) (e : Element) : (e.withRole role).name? = e.name? := by
  unfold name? withRole Shape.setRole
  cases e.shape <;> rfl

theorem withRole_withRole (role : Role) (e : Element) :
    (e.withRole role).withRole role = e.withRole role := by
  unfold withRole Shape.setRole
  cases e.shape <;> rfl

end Element

namespace ElementTree

/-- The names that patterns in a row bind. A name binds itself; another element binds what its parts
    bind, all of it before anything that follows the element. -/
inductive Binds (t : ElementTree) : List Nat → List Nat → Prop
  | nothing : Binds t [] []
  | name {i : Nat} {e : Element} {rest names : List Nat} (found : t.element? i = some e)
      (kind : e.kind ∈ ["identifier", "shorthand_property_identifier_pattern"])
      (later : Binds t rest names) : Binds t (i :: rest) (i :: names)
  | parts {i : Nat} {e : Element} {parts inner rest names : List Nat}
      (found : t.element? i = some e) (through : e.BindsThrough parts) (below : Binds t parts inner)
      (later : Binds t rest names) : Binds t (i :: rest) (inner ++ names)

/-- A search that marks what it finds: the tree as it has become, the elements still to be looked
    at, and the names so far. -/
structure Marking where
  tree : ElementTree
  stack : List Nat
  names : List String

/-- Takes an element off the stack. There is no next state where the stack is empty, and none where
    it leads out of the tree. -/
def Marking.next? (role : Role) (m : Marking) : Option Marking :=
  match m.stack with
  | [] => none
  | i :: stack => (m.tree.element? i).map fun e =>
    if e.isPatternName then ⟨m.tree.setRole i role, stack, m.names ++ e.name?.toList⟩
    else ⟨m.tree, e.patternParts ++ stack, m.names⟩

def Marking.after? (role : Role) : Nat → Marking → Option Marking
  | 0, m => some m
  | steps + 1, m => (m.next? role).bind (after? role steps)

variable {t : ElementTree} {p i j q : Nat} {role : Role} {top stack names names' : List Nat}

theorem Marking.after?_add (role : Role) (a b : Nat) (m : Marking) :
    m.after? role (a + b) = (m.after? role a).bind (after? role b) := by
  induction a generalizing m with
  | zero => rw [Nat.zero_add, after?, Option.bind_some]
  | succ a ih =>
    rw [Nat.succ_add, after?, after?]
    cases m.next? role with
    | none => rfl
    | some m' => exact ih m'

theorem Binds.unique (h : t.Binds top names) (h' : t.Binds top names') : names = names' := by
  induction h generalizing names' with
  | nothing =>
    cases h'
    rfl
  | name found kind _ ih =>
    cases h' with
    | name _ _ later => rw [ih later]
    | parts found' through _ _ =>
      obtain rfl := Option.some.inj (found.symm.trans found')
      have other := (Element.bindsThrough_iff.mp through).1
      rw [Element.isPatternName_iff.mpr kind] at other
      cases other
  | parts found through _ _ ihBelow ihLater =>
    cases h' with
    | name found' kind _ =>
      obtain rfl := Option.some.inj (found.symm.trans found')
      have other := (Element.bindsThrough_iff.mp through).1
      rw [Element.isPatternName_iff.mpr kind] at other
      cases other
    | parts found' through' below later =>
      obtain rfl := Option.some.inj (found.symm.trans found')
      have same := (Element.bindsThrough_iff.mp through).2.trans
        (Element.bindsThrough_iff.mp through').2.symm
      subst same
      rw [ihBelow below, ihLater later]

theorem Binds.kind_mem (h : t.Binds top names) : ∀ i ∈ names, ∃ e, t.element? i = some e ∧
    e.kind ∈ ["identifier", "shorthand_property_identifier_pattern"] := by
  induction h with
  | nothing => exact fun i hi => nomatch hi
  | name found kind _ ih => exact List.forall_mem_cons.mpr ⟨⟨_, found, kind⟩, ih⟩
  | parts _ _ _ _ ihBelow ihLater => exact List.forall_mem_append.mpr ⟨ihBelow, ihLater⟩

theorem exists_binds_of_each {list : List Nat} (each : ∀ c ∈ list, ∃ names, t.Binds [c] names) :
    ∃ names, t.Binds list names := by
  induction list with
  | nil => exact ⟨[], .nothing⟩
  | cons c rest ih =>
    obtain ⟨names, later⟩ := ih fun d hd => each d (List.mem_cons_of_mem _ hd)
    obtain ⟨first, here⟩ := each c List.mem_cons_self
    cases here with
    | name found kind _ => exact ⟨_, .name found kind later⟩
    | parts found through below _ => exact ⟨_, .parts found through below later⟩

theorem mem_childrenOf_of_through {e : Element} {parts : List Nat}
    (found : t.element? i = some e) (through : e.BindsThrough parts) : parts ⊆ t.childrenOf i := by
  rw [childrenOf_eq found]
  exact through.sublist.subset

theorem exists_binds (linked : t.Linked) (inside : p < t.size) : ∃ names, t.Binds [p] names := by
  -- children have larger numbers, so the induction is on how many larger ones there are
  induction larger : t.size - p using Nat.strongRecOn generalizing p with
  | ind n ih =>
    subst larger
    obtain ⟨e, found⟩ := exists_element inside
    cases name : e.isPatternName with
    | true => exact ⟨[p], .name found (Element.isPatternName_iff.mp name) .nothing⟩
    | false =>
      have through := Element.bindsThrough_iff.mpr ⟨name, rfl⟩
      have each : ∀ c ∈ e.patternParts, ∃ names, t.Binds [c] names := by
        intro c hc
        have child := mem_childrenOf_of_through found through hc
        have less := linked.parent_lt c p ((mem_childrenOf_iff linked).mp child)
        exact ih (t.size - c) (by omega) (lt_size_of_mem_childrenOf linked child) rfl
      obtain ⟨inner, below⟩ := exists_binds_of_each each
      exact ⟨inner ++ [], .parts found through below .nothing⟩

def markEach (t : ElementTree) (names : List Nat) (role : Role) : ElementTree :=
  names.foldl (fun t i => t.setRole i role) t

theorem markEach_concat (t : ElementTree) (names : List Nat) (i : Nat) (role : Role) :
    t.markEach (names ++ [i]) role = (t.markEach names role).setRole i role := by
  simp [markEach]

theorem element?_markEach (t : ElementTree) (names : List Nat) (role : Role) (i : Nat) :
    (t.markEach names role).element? i =
      (t.element? i).map fun e => if i ∈ names then e.withRole role else e := by
  induction names generalizing t with
  | nil => exact (Option.map_id' ..).symm
  | cons k names ih =>
    refine (ih (t.setRole k role)).trans ?_
    rw [setRole, element?_modifyShape]
    by_cases same : k = i
    · subst same
      rw [if_pos rfl, Option.map_map]
      congr 1
      funext e
      by_cases later : k ∈ names
      · simp only [Function.comp_apply, if_pos later, if_pos List.mem_cons_self]
        exact e.withRole_withRole role
      · simp [later, Element.withRole]
    · simp [same, Ne.symm same]

theorem nextOrdinal_markEach (t : ElementTree) (names : List Nat) (role : Role) :
    (t.markEach names role).nextOrdinal = t.nextOrdinal := by
  induction names generalizing t with
  | nil => rfl
  | cons i rest ih => exact (ih (t.setRole i role)).trans rfl

def namesOf (t : ElementTree) (names : List Nat) : List String :=
  names.filterMap fun i => (t.element? i).bind Element.name?

def marking (t : ElementTree) (role : Role) (done stack : List Nat) : Marking :=
  ⟨t.markEach done role, stack, t.namesOf done⟩

/-- A step in the tree as it has become is a step in the tree as it was. -/
theorem next?_marking (done : List Nat) : (t.marking role done (i :: stack)).next? role =
    (t.element? i).map fun e =>
      if e.isPatternName then t.marking role (done ++ [i]) stack
      else t.marking role done (e.patternParts ++ stack) := by
  simp only [Marking.next?, marking, element?_markEach, Option.map_map]
  cases found : t.element? i with
  | none => rfl
  | some e =>
    have kind (e' : Element) (h : e' = e ∨ e' = e.withRole role) :
        e'.isPatternName = e.isPatternName ∧ e'.patternParts = e.patternParts ∧
          e'.name? = e.name? := by
      rcases h with rfl | rfl
      · exact ⟨rfl, rfl, rfl⟩
      · exact ⟨rfl, rfl, e.name?_withRole role⟩
    obtain ⟨name, parts, text⟩ := kind (if i ∈ done then e.withRole role else e) <| by
      split
      · exact .inr rfl
      · exact .inl rfl
    have texts : t.namesOf (done ++ [i]) = t.namesOf done ++ e.name?.toList := by
      rw [namesOf, List.filterMap_append, ← namesOf]
      congr 1
      cases own : e.name? <;> simp [found, own]
    simp only [Option.map_some, Function.comp_apply, name, parts, text, texts, markEach_concat]

theorem eq_of_after? {m : Marking} {steps limit : Nat} {done : List Nat} (within : steps ≤ limit)
    (ran : (t.marking role done stack).after? role steps = some m) (ended : m.stack = []) :
    m = t.marking role (done ++ t.boundFrom limit stack) [] := by
  induction steps generalizing limit done stack with
  | zero =>
    obtain rfl := Option.some.inj ran
    have empty : stack = [] := ended
    subst empty
    rw [Lowering.boundFrom_nil, List.append_nil]
  | succ steps ih =>
    obtain ⟨limit, rfl⟩ : ∃ n, limit = n + 1 := ⟨limit - 1, by omega⟩
    have within : steps ≤ limit := Nat.le_of_succ_le_succ within
    cases stack with
    | nil => cases ran
    | cons i stack =>
      rw [Marking.after?, next?_marking] at ran
      rw [boundFrom]
      cases found : t.element? i with
      | none =>
        rw [found] at ran
        cases ran
      | some e =>
        rw [found, Option.map_some, Option.bind_some] at ran
        dsimp only
        split at ran
        · next name =>
          rw [if_pos name, ih within ran, List.append_assoc]
          rfl
        · next other => rw [if_neg other, ih within ran]

theorem Visits.exists_split {a b order : List Nat} (h : t.Visits (a ++ b) order) :
    ∃ x y, t.Visits a x ∧ t.Visits b y ∧ order = x ++ y := by
  generalize whole : a ++ b = all at h
  induction h generalizing a with
  | done =>
    obtain ⟨rfl, rfl⟩ := List.append_eq_nil_iff.mp whole
    exact ⟨[], [], .done, .done, rfl⟩
  | @next i e rest order found visits ih =>
    cases a with
    | nil =>
      subst whole
      exact ⟨[], i :: order, .done, .next found visits, rfl⟩
    | cons j a =>
      obtain ⟨rfl, rfl⟩ := List.cons_eq_cons.mp whole
      obtain ⟨x, y, first, second, rfl⟩ := ih (List.append_assoc _ a b)
      exact ⟨j :: x, y, .next found first, second, rfl⟩

theorem Visits.exists_of_sublist {order : List Nat} (h : t.Visits stack order)
    (part : top.Sublist stack) : ∃ fewer, t.Visits top fewer ∧ fewer.length ≤ order.length := by
  induction part generalizing order with
  | slnil => exact ⟨[], .done, Nat.zero_le _⟩
  | @cons top stack i _ ih =>
    obtain ⟨x, y, _, visits, rfl⟩ := Visits.exists_split (a := [i]) h
    obtain ⟨fewer, visited, short⟩ := ih visits
    exact ⟨fewer, visited, by rw [List.length_append]; omega⟩
  | @cons_cons top stack i _ ih =>
    obtain ⟨x, y, first, visits, rfl⟩ := Visits.exists_split (a := [i]) h
    obtain ⟨fewer, visited, short⟩ := ih visits
    exact ⟨x ++ fewer, first.append visited, by simpa using short⟩

/-- The search takes all that the recursion binds, in no more steps than elements are below. -/
theorem Binds.exists_steps (h : t.Binds top names) {order : List Nat} (visits : t.Visits top order)
    (role : Role) : ∃ steps ≤ order.length, ∀ done stack,
      (t.marking role done (top ++ stack)).after? role steps =
        some (t.marking role (done ++ names) stack) := by
  induction h generalizing order with
  | nothing => exact ⟨0, Nat.zero_le _, fun done stack => by rw [List.append_nil]; rfl⟩
  | @name i e rest names found kind _ ih =>
    obtain ⟨x, y, here, later, rfl⟩ := Visits.exists_split (a := [i]) visits
    obtain ⟨steps, short, ran⟩ := ih later
    cases here with
    | @next _ _ _ below _ _ =>
      refine ⟨steps + 1, by simp; omega, fun done stack => ?_⟩
      rw [List.cons_append, Marking.after?, next?_marking, found, Option.map_some,
        if_pos (Element.isPatternName_iff.mpr kind), Option.bind_some, ran, List.append_assoc]
      rfl
  | @parts i e parts inner rest names found through _ _ ihBelow ihLater =>
    obtain ⟨x, y, here, later, rfl⟩ := Visits.exists_split (a := [i]) visits
    cases here with
    | @next _ e' _ below found' inside =>
      obtain rfl := Option.some.inj (found.symm.trans found')
      rw [List.append_nil] at inside
      obtain ⟨fewer, visited, short⟩ := inside.exists_of_sublist through.sublist
      obtain ⟨a, shortA, ranA⟩ := ihBelow visited
      obtain ⟨b, shortB, ranB⟩ := ihLater later
      obtain ⟨other, same⟩ := Element.bindsThrough_iff.mp through
      refine ⟨a + b + 1, by simp; omega, fun done stack => ?_⟩
      rw [List.cons_append, Marking.after?, next?_marking, found, Option.map_some,
        if_neg (by rw [other]; exact Bool.false_ne_true), Option.bind_some, Marking.after?_add,
        ← same, ranA, Option.bind_some, ranB, List.append_assoc]

theorem within_trans (linked : t.Linked) (first : t.Within i j) (second : t.Within j q) :
    t.Within i q := by
  induction q using Nat.strongRecOn with
  | ind q ih =>
    rcases List.mem_cons.mp second with rfl | above
    · exact first
    · cases parent : t.parent? q with
      | none =>
        rw [ancestors_of_orphan parent] at above
        cases above
      | some p =>
        have within := ih p (linked.parent_lt q p parent)
          ((mem_ancestors_iff linked parent).mp above)
        exact List.mem_cons_of_mem _ ((mem_ancestors_iff linked parent).mpr within)

theorem Binds.exists_way (linked : t.Linked) (h : t.Binds top names) (hj : j ∈ names) :
    ∃ i ∈ top, t.Within i j ∧ ∀ q, t.Within i q → q ∈ t.ancestors j →
      ∃ e parts c, t.element? q = some e ∧ e.BindsThrough parts ∧ c ∈ parts ∧ t.Within c j := by
  induction h with
  | nothing => cases hj
  | @name i e rest names found kind _ ih =>
    rcases List.mem_cons.mp hj with rfl | later
    · refine ⟨j, List.mem_cons_self, t.within_self j, fun q within above => ?_⟩
      have less := lt_of_mem_ancestors linked above
      exact absurd (le_of_within linked within) (Nat.not_le.mpr less)
    · obtain ⟨k, hk, way⟩ := ih later
      exact ⟨k, List.mem_cons_of_mem _ hk, way⟩
  | @parts i e parts inner rest names found through _ _ ihBelow ihLater =>
    rcases List.mem_append.mp hj with below | later
    · obtain ⟨c, part, within, way⟩ := ihBelow below
      have child := mem_childrenOf_of_through found through part
      have around := (within_iff linked).mpr (.inr ⟨c, child, within⟩)
      refine ⟨i, List.mem_cons_self, around, fun q inside above => ?_⟩
      rcases (within_iff linked).mp inside with rfl | ⟨d, other, inD⟩
      · exact ⟨e, parts, c, found, through, part, within⟩
      · have down := within_trans linked inD (List.mem_cons_of_mem j above)
        obtain rfl := child_unique linked child other within down
        exact way q inD above
    · obtain ⟨k, hk, way⟩ := ihLater later
      exact ⟨k, List.mem_cons_of_mem _ hk, way⟩

/-- What lies inside a child that is no part of its pattern is not reached. -/
theorem Binds.not_mem (linked : t.Linked) (h : t.Binds [p] names) {e : Element}
    (found : t.element? q = some e) (within : t.Within p q) {parts : List Nat}
    (through : e.BindsThrough parts) {c : Nat} (child : c ∈ t.childrenOf q) (skipped : c ∉ parts)
    (inside : t.Within c j) : j ∉ names := by
  intro hj
  obtain ⟨i, hi, _, way⟩ := h.exists_way linked hj
  obtain rfl := List.mem_singleton.mp hi
  obtain ⟨e', parts', d, found', through', part, inD⟩ :=
    way q within (mem_ancestors_of_within linked child inside)
  obtain rfl := Option.some.inj (found.symm.trans found')
  have same := (Element.bindsThrough_iff.mp through).2.trans
    (Element.bindsThrough_iff.mp through').2.symm
  subst same
  have other := mem_childrenOf_of_through found through part
  exact skipped (child_unique linked child other inside inD ▸ part)

/-- What marking a pattern gives and does to the tree, told by the elements that are bound. -/
structure Marked (t : ElementTree) (p : Nat) (role : Role) (bound : List Nat) : Prop where
  binds_iff : ∀ names, t.Binds [p] names ↔ names = bound
  /-- The search that marks what it finds ends of itself, without leaving the tree. -/
  ends : ∃ steps ≤ t.size, Marking.after? role steps ⟨t, [p], []⟩ =
    some ⟨(t.markPattern p role).2, [], (t.markPattern p role).1⟩
  names_eq : (t.markPattern p role).1 = bound.filterMap fun i => (t.element? i).bind Element.name?
  marked : ∀ i ∈ bound, ∃ e, t.element? i = some e ∧
    e.kind ∈ ["identifier", "shorthand_property_identifier_pattern"] ∧
    (t.markPattern p role).2.element? i = some { e with shape := e.shape.setRole role }
  kept : ∀ i ∉ bound, (t.markPattern p role).2.element? i = t.element? i
  nextOrdinal_eq : (t.markPattern p role).2.nextOrdinal = t.nextOrdinal
  outlines_eq : (t.markPattern p role).2.outlines = t.outlines
  childrenOf_eq : ∀ i, (t.markPattern p role).2.childrenOf i = t.childrenOf i
  /-- Default values are left as they are, with all that is inside. -/
  default_kept : ∀ q e first values c i, t.Within p q → t.element? q = some e →
    e.kind ∈ ["assignment_pattern", "object_assignment_pattern"] →
    t.childrenOf q = first :: values → c ∈ values → t.Within c i → i ∉ bound
  /-- So are the keys of pairs. -/
  key_kept : ∀ q e keys last c i, t.Within p q → t.element? q = some e →
    e.kind = "pair_pattern" → t.childrenOf q = keys ++ [last] → c ∈ keys → t.Within c i → i ∉ bound

theorem marked_of_linked (linked : t.Linked) (inside : p < t.size) (role : Role) :
    ∃ bound, t.Marked p role bound := by
  obtain ⟨bound, binds⟩ := exists_binds linked inside
  obtain ⟨order, visits⟩ := exists_visits linked inside
  obtain ⟨steps, short, ran⟩ := binds.exists_steps visits role
  have ran := ran [] []
  have enough := Nat.le_trans short (length_le_of_visits linked visits)
  have same : (⟨t.markEach bound role, [], t.namesOf bound⟩ : Marking) =
      ⟨(t.markPattern p role).2, [], (t.markPattern p role).1⟩ := eq_of_after? enough ran rfl
  obtain ⟨changed, -, texts⟩ := Marking.mk.inj same
  have element (i : Nat) : (t.markPattern p role).2.element? i =
      (t.element? i).map fun e => if i ∈ bound then e.withRole role else e := by
    rw [← changed, element?_markEach]
  refine ⟨bound, ?_⟩
  constructor
  case binds_iff => exact fun names => ⟨fun h => h.unique binds, fun h => h ▸ binds⟩
  case ends => exact ⟨steps, enough, ran.trans (congrArg some same)⟩
  case names_eq => exact texts.symm
  case marked =>
    intro i hi
    obtain ⟨e, found, kind⟩ := binds.kind_mem i hi
    refine ⟨e, found, kind, ?_⟩
    rw [element, found, Option.map_some, if_pos hi]
    rfl
  case kept =>
    intro i hi
    simp [element, hi]
  case nextOrdinal_eq => rw [← changed, nextOrdinal_markEach]
  case outlines_eq => exact outlines_markPattern t p role
  case childrenOf_eq =>
    intro i
    rw [childrenOf, childrenOf, element]
    cases t.element? i with
    | none => rfl
    | some e =>
      rw [Option.map_some, Option.map_some]
      split <;> rfl
  case default_kept =>
    intro q e first values c i within found kind children later inC
    have apart := pairwise_childrenOf linked q
    rw [children] at apart
    refine binds.not_mem linked found within (.first kind) (children ▸ List.mem_cons_of_mem _ later)
      ?_ inC
    rw [← childrenOf_eq found, children]
    intro part
    have less := (List.pairwise_cons.mp apart).1 c later
    exact Nat.ne_of_gt less (List.mem_singleton.mp part)
  case key_kept =>
    intro q e keys last c i within found kind children earlier inC
    have apart := pairwise_childrenOf linked q
    rw [children] at apart
    refine binds.not_mem linked found within (.last kind)
      (children ▸ List.mem_append_left _ earlier) ?_ inC
    rw [← childrenOf_eq found, children, List.getLast?_concat]
    intro part
    have less := (List.pairwise_append.mp apart).2.2 c earlier last List.mem_cons_self
    exact Nat.ne_of_lt less (List.mem_singleton.mp part)

end ElementTree

namespace Lowering

def takenApartSource : String := "[{ a, [k]: c = d }, ...a] = e"

/-- The named nodes of that source: a pattern with a computed key, a default value, and one name
    twice. -/
def takenApart : ParseNode :=
  let head (number : Nat) (kind : String) (start stop : UInt64) : NodeHead :=
    ⟨number, kind, ⟨start, stop⟩, true, false, false, false, false⟩
  let leaf (number : Nat) (kind : String) (start stop : UInt64) : ParseNode :=
    .mk (head number kind start stop) [] []
  let key : ParseNode := .mk (head 7 "computed_property_name" 6 9) [] [leaf 8 "identifier" 7 8]
  let value : ParseNode :=
    .mk (head 9 "assignment_pattern" 11 16) []
      [leaf 10 "identifier" 11 12, leaf 11 "identifier" 15 16]
  let object : ParseNode := .mk (head 4 "object_pattern" 1 18) []
    [leaf 5 "shorthand_property_identifier_pattern" 3 4,
      .mk (head 6 "pair_pattern" 6 16) [] [key, value]]
  let others : ParseNode := .mk (head 12 "rest_pattern" 20 24) [] [leaf 13 "identifier" 23 24]
  let array : ParseNode := .mk (head 3 "array_pattern" 0 25) [] [object, others]
  let assignment : ParseNode := .mk (head 2 "assignment_expression" 0 29) [(.left, array)]
    [array, leaf 14 "identifier" 28 29]
  .mk (head 0 "program" 0 29) [] [.mk (head 1 "expression_statement" 0 29) [] [assignment]]

theorem elements_takenApart :
    let t := (lower takenApartSource takenApart).tree
    t.size = 15 ∧ t.childrenOf 6 = [7, 9] ∧ t.childrenOf 9 = [10, 11] ∧
      (t.element? 6).map Element.kind = some "pair_pattern" ∧
      (t.element? 9).map Element.kind = some "assignment_pattern" ∧
      3 ∈ t.ancestors 6 ∧ 3 ∈ t.ancestors 9 ∧ 7 ∈ t.ancestors 8 ∧
      (t.markPattern 3 .declaration).1 = ["a", "c", "a"] := by
  rw [lower_eq_lowerTree]
  decide +kernel

theorem marked_of_linked_takenApart :
    let t := (lower takenApartSource takenApart).tree
    t.Linked ∧ 3 < t.size ∧ ∃ bound, t.Marked 3 .declaration bound ∧
      (t.markPattern 3 .declaration).1 = ["a", "c", "a"] ∧ 8 ∉ bound ∧ 11 ∉ bound := by
  intro t
  obtain ⟨size, children, values, pair, withDefault, aroundPair, aroundValue, inKey, names⟩ :=
    elements_takenApart
  have linked : t.Linked := (lower_records takenApartSource takenApart).linked
  have inside : 3 < t.size := by
    show 3 < (lower takenApartSource takenApart).tree.size
    omega
  obtain ⟨bound, marked⟩ := ElementTree.marked_of_linked linked inside .declaration
  obtain ⟨e, found, kind⟩ := Option.map_eq_some_iff.mp pair
  obtain ⟨e', found', kind'⟩ := Option.map_eq_some_iff.mp withDefault
  exact ⟨linked, inside, bound, marked, names,
    marked.key_kept 6 e [7] 9 7 8 (List.mem_cons_of_mem _ aroundPair) found kind children
      (List.mem_singleton_self 7) (List.mem_cons_of_mem _ inKey),
    marked.default_kept 9 e' 10 [11] 11 11 (List.mem_cons_of_mem _ aroundValue) found'
      (by simp [kind']) values (List.mem_singleton_self 11) (t.within_self 11)⟩

end Lowering
end CrossReference
