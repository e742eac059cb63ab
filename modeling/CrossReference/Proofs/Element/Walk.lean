import CrossReference.Proofs.Element.Visits
import Mathlib.Data.List.Flatten
import Mathlib.Data.List.Nodup

set_option autoImplicit false

/-!
# The walk over a tree

An element may enter below any that is there already, so the numbers of a tree are in general not in
the order of its walk. Still the walk comes to each element once, and all that is below an element
follows it in one block, child by child: `walked_of_built`.
-/
namespace CrossReference.ElementTree

variable {t : ElementTree} {i j : Nat}

theorem mem_childrenOf_iff (linked : t.Linked) : j ∈ t.childrenOf i ↔ t.parent? j = some i := by
  cases found : t.element? i with
  | none =>
    rw [childrenOf, found]
    constructor
    · exact fun h => absurd h List.not_mem_nil
    · intro parent
      have less := Nat.lt_trans (linked.parent_lt j i parent) (lt_size_of_parent parent)
      exact absurd ((element?_eq_none_iff t i).mp found) (Nat.not_le.mpr less)
  | some e =>
    rw [childrenOf_eq found, linked.children_eq i e found, List.mem_filter, decide_eq_true_eq,
      List.mem_range]
    exact and_iff_right_of_imp lt_size_of_parent

theorem lt_size_of_mem_childrenOf (linked : t.Linked) (h : j ∈ t.childrenOf i) : j < t.size :=
  lt_size_of_parent ((mem_childrenOf_iff linked).mp h)

theorem pairwise_childrenOf (linked : t.Linked) (i : Nat) : (t.childrenOf i).Pairwise (· < ·) := by
  cases found : t.element? i with
  | none =>
    rw [childrenOf, found]
    exact List.Pairwise.nil
  | some e =>
    rw [childrenOf_eq found, linked.children_eq i e found]
    exact List.pairwise_lt_range.filter _

/-- The second element is the first one or lies below it. -/
def Within (t : ElementTree) (i j : Nat) : Prop := i ∈ j :: t.ancestors j

theorem within_self (t : ElementTree) (i : Nat) : t.Within i i := List.mem_cons_self

theorem mem_ancestors_iff (linked : t.Linked) {p : Nat} (parent : t.parent? j = some p) :
    i ∈ t.ancestors j ↔ t.Within i p := by
  rw [ancestors_of_parent linked parent]
  rfl

theorem le_of_within (linked : t.Linked) (h : t.Within i j) : i ≤ j := by
  rcases List.mem_cons.mp h with same | above
  · exact Nat.le_of_eq same
  · exact Nat.le_of_lt (lt_of_mem_ancestors linked above)

theorem exists_child_within (linked : t.Linked) (h : i ∈ t.ancestors j) :
    ∃ c ∈ t.childrenOf i, t.Within c j := by
  induction j using Nat.strongRecOn with
  | ind j ih =>
    cases parent : t.parent? j with
    | none =>
      rw [ancestors_of_orphan parent] at h
      cases h
    | some p =>
      rcases List.mem_cons.mp ((mem_ancestors_iff linked parent).mp h) with same | above
      · subst same
        exact ⟨j, (mem_childrenOf_iff linked).mpr parent, t.within_self j⟩
      · obtain ⟨c, child, within⟩ := ih p (linked.parent_lt j p parent) above
        exact ⟨c, child, List.mem_cons_of_mem _ ((mem_ancestors_iff linked parent).mpr within)⟩

theorem mem_ancestors_of_within (linked : t.Linked) {c : Nat} (child : c ∈ t.childrenOf i)
    (h : t.Within c j) : i ∈ t.ancestors j := by
  have above : i ∈ t.ancestors c :=
    (mem_ancestors_iff linked ((mem_childrenOf_iff linked).mp child)).mpr (t.within_self i)
  induction j using Nat.strongRecOn with
  | ind j ih =>
    rcases List.mem_cons.mp h with same | between
    · exact same ▸ above
    · cases parent : t.parent? j with
      | none =>
        rw [ancestors_of_orphan parent] at between
        cases between
      | some p =>
        have within := (mem_ancestors_iff linked parent).mp between
        exact (mem_ancestors_iff linked parent).mpr
          (List.mem_cons_of_mem _ (ih p (linked.parent_lt j p parent) within))

theorem within_iff (linked : t.Linked) :
    t.Within i j ↔ j = i ∨ ∃ c ∈ t.childrenOf i, t.Within c j := by
  rw [Within, List.mem_cons, eq_comm]
  refine or_congr_right ⟨exists_child_within linked, ?_⟩
  rintro ⟨c, child, within⟩
  exact mem_ancestors_of_within linked child within

theorem within_total (linked : t.Linked) {a b : Nat} (ha : t.Within a j) (hb : t.Within b j) :
    t.Within a b ∨ t.Within b a := by
  induction j using Nat.strongRecOn with
  | ind j ih =>
    rcases List.mem_cons.mp ha with same | aboveA
    · exact .inr (same ▸ hb)
    · rcases List.mem_cons.mp hb with same | aboveB
      · exact .inl (same ▸ ha)
      · cases parent : t.parent? j with
        | none =>
          rw [ancestors_of_orphan parent] at aboveA
          cases aboveA
        | some p =>
          exact ih p (linked.parent_lt j p parent) ((mem_ancestors_iff linked parent).mp aboveA)
            ((mem_ancestors_iff linked parent).mp aboveB)

theorem child_unique (linked : t.Linked) {c d : Nat} (hc : c ∈ t.childrenOf i)
    (hd : d ∈ t.childrenOf i) (inC : t.Within c j) (inD : t.Within d j) : c = d := by
  have parent {c : Nat} (hc : c ∈ t.childrenOf i) := (mem_childrenOf_iff linked).mp hc
  -- a child of `i` that lay below another one would have a number up to `i`
  have apart {c d : Nat} (hc : c ∈ t.childrenOf i) (hd : d ∈ t.childrenOf i)
      (h : t.Within c d) : c = d := by
    rcases List.mem_cons.mp h with same | above
    · exact same
    · have le := le_of_within linked ((mem_ancestors_iff linked (parent hd)).mp above)
      have less := linked.parent_lt c i (parent hc)
      exact absurd le (Nat.not_le.mpr less)
  rcases within_total linked inC inD with h | h
  · exact apart hc hd h
  · exact (apart hd hc h).symm

theorem Visits.append {a b x y : List Nat} (first : t.Visits a x) (second : t.Visits b y) :
    t.Visits (a ++ b) (x ++ y) := by
  induction first with
  | done => exact second
  | next found _ ih =>
    rw [List.append_assoc] at ih
    exact .next found ih

theorem Visits.flatMap {f : Nat → List Nat} {stack : List Nat}
    (each : ∀ i ∈ stack, t.Visits [i] (f i)) : t.Visits stack (stack.flatMap f) := by
  induction stack with
  | nil => exact .done
  | cons i rest ih =>
    exact (each i List.mem_cons_self).append (ih fun k hk => each k (List.mem_cons_of_mem _ hk))

theorem Visits.unique {stack a b : List Nat} (ha : t.Visits stack a) (hb : t.Visits stack b) :
    a = b := by
  rw [← ha.walkFrom_eq (Nat.le_max_left a.length b.length),
    hb.walkFrom_eq (Nat.le_max_right a.length b.length)]

theorem Visits.lt_size {stack order : List Nat} (h : t.Visits stack order) :
    ∀ j ∈ order, j < t.size := by
  induction h with
  | done => exact fun j hj => nomatch hj
  | next found _ ih => exact List.forall_mem_cons.mpr ⟨lt_size_of_element found, ih⟩

theorem Visits.mem_iff (linked : t.Linked) {stack order : List Nat} (h : t.Visits stack order) :
    j ∈ order ↔ ∃ i ∈ stack, t.Within i j := by
  induction h with
  | done => simp
  | @next i e stack order found _ ih =>
    have first := within_iff (i := i) (j := j) linked
    rw [childrenOf_eq found] at first
    simp only [List.mem_cons, List.mem_append, or_and_right, exists_or, exists_eq_left, ih, first,
      or_assoc]

/-- No element is visited twice where nothing on the stack lies within the same element twice. -/
theorem Visits.nodup (linked : t.Linked) {stack order : List Nat} (h : t.Visits stack order)
    (apart : stack.Pairwise fun a b => ∀ j, t.Within a j → ¬t.Within b j) : order.Nodup := by
  induction h with
  | done => exact List.nodup_nil
  | @next i e stack order found rest ih =>
    obtain ⟨first, later⟩ := List.pairwise_cons.mp apart
    have child {c : Nat} (hc : c ∈ e.children.toList) : c ∈ t.childrenOf i := by
      rw [childrenOf_eq found]
      exact hc
    have below {c j : Nat} (hc : c ∈ e.children.toList) (within : t.Within c j) : t.Within i j :=
      (within_iff linked).mpr (.inr ⟨c, child hc, within⟩)
    refine List.nodup_cons.mpr ⟨?_, ih (List.pairwise_append.mpr ⟨?_, later, ?_⟩)⟩
    · rw [rest.mem_iff linked]
      rintro ⟨k, hk, within⟩
      rcases List.mem_append.mp hk with hc | waiting
      · have less := linked.parent_lt k i ((mem_childrenOf_iff linked).mp (child hc))
        exact Nat.not_le.mpr less (le_of_within linked within)
      · exact first k waiting i (t.within_self i) within
    · rw [← childrenOf_eq found]
      refine (pairwise_childrenOf linked i).imp_of_mem ?_
      intro a b ha hb less j inA inB
      exact Nat.ne_of_lt less (child_unique linked ha hb inA inB)
    · exact fun a ha b hb j inA => first b hb j (below ha inA)

def block (t : ElementTree) (i : Nat) : List Nat := t.walkFrom t.size [i]

theorem exists_visits (linked : t.Linked) (inside : i < t.size) : ∃ order, t.Visits [i] order := by
  -- children have larger numbers, so the induction is on how many larger ones there are
  induction larger : t.size - i using Nat.strongRecOn generalizing i with
  | ind n ih =>
    subst larger
    obtain ⟨e, found⟩ := exists_element inside
    have list (stack : List Nat) (children : stack ⊆ t.childrenOf i) :
        ∃ order, t.Visits stack order := by
      induction stack with
      | nil => exact ⟨[], .done⟩
      | cons c rest ihRest =>
        have child := children List.mem_cons_self
        have less := linked.parent_lt c i ((mem_childrenOf_iff linked).mp child)
        have small := lt_size_of_mem_childrenOf linked child
        obtain ⟨first, visits⟩ := ih (t.size - c) (by omega) small rfl
        obtain ⟨later, waiting⟩ := ihRest fun k hk => children (List.mem_cons_of_mem _ hk)
        exact ⟨first ++ later, visits.append waiting⟩
    obtain ⟨order, visits⟩ := list (t.childrenOf i) (List.Subset.refl _)
    rw [childrenOf_eq found, ← List.append_nil e.children.toList] at visits
    exact ⟨i :: order, .next found visits⟩

theorem length_le_of_visits (linked : t.Linked) {order : List Nat} (h : t.Visits [i] order) :
    order.length ≤ t.size := by
  have nodup := h.nodup linked (List.pairwise_singleton _ i)
  have known : order ⊆ List.range t.size := fun j hj => List.mem_range.mpr (h.lt_size j hj)
  exact Nat.le_trans (nodup.length_le_of_subset known) (Nat.le_of_eq List.length_range)

theorem visits_block (linked : t.Linked) (inside : i < t.size) : t.Visits [i] (t.block i) := by
  obtain ⟨order, visits⟩ := exists_visits linked inside
  rw [block, visits.walkFrom_eq (length_le_of_visits linked visits)]
  exact visits

theorem block_eq (linked : t.Linked) (inside : i < t.size) :
    t.block i = i :: (t.childrenOf i).flatMap t.block := by
  obtain ⟨e, found⟩ := exists_element inside
  have below : t.Visits (t.childrenOf i) ((t.childrenOf i).flatMap t.block) :=
    .flatMap fun c hc => visits_block linked (lt_size_of_mem_childrenOf linked hc)
  rw [childrenOf_eq found, ← List.append_nil e.children.toList] at below
  rw [(visits_block linked inside).unique (.next found below), List.append_nil, childrenOf_eq found]

theorem mem_block_iff (linked : t.Linked) (inside : i < t.size) : j ∈ t.block i ↔ t.Within i j := by
  rw [(visits_block linked inside).mem_iff linked]
  simp

theorem nodup_block (linked : t.Linked) (inside : i < t.size) : (t.block i).Nodup :=
  (visits_block linked inside).nodup linked (List.pairwise_singleton _ i)

theorem block_infix_of_mem (linked : t.Linked) {c : Nat} (hc : c ∈ t.childrenOf i)
    (inside : i < t.size) : t.block c <:+: t.block i := by
  rw [block_eq linked inside]
  exact (List.infix_flatMap_of_mem hc t.block).trans (List.suffix_cons _ _).isInfix

theorem Linked.searched (linked : t.Linked) : t.Searched where
  walk := visits_block linked linked.nonempty
  function i f found := by
    obtain ⟨e, here, _⟩ := Option.map_eq_some_iff.mp found
    rw [enclosingFunction?_eq (lt_size_of_element here)] at found
    rw [← Option.some.inj found]
    exact ⟨e, here, findsFunction_of_linked linked here⟩
  bindingName i result found := by
    obtain ⟨e, here, found⟩ := Option.bind_eq_some_iff.mp found
    refine ⟨e, here, ?_⟩
    cases own : e.name? with
    | some name =>
      rw [own] at found
      exact .inl ⟨rfl, (Option.some.inj found).symm⟩
    | none =>
      rw [own] at found
      obtain ⟨order, visits⟩ := exists_visits linked (lt_size_of_element here)
      have short := length_le_of_visits linked visits
      cases visits with
      | next found' rest =>
        obtain rfl := Option.some.inj (here.symm.trans found')
        rw [List.append_nil] at rest
        rw [← Option.some.inj found]
        exact .inr ⟨rfl, rest.findsName (Nat.le_of_succ_le short)⟩

theorem lt_size_of_mem_walk (linked : t.Linked) (h : i ∈ t.walk) : i < t.size :=
  linked.searched.walk.lt_size i h

theorem Built.exists_parent (built : t.Built) (inside : i < t.size) (other : i ≠ root) :
    ∃ p, t.parent? i = some p := by
  induction built with
  | new kind span =>
    have size : (ElementTree.new kind span).size = 1 := by cases span <;> rfl
    rw [size] at inside
    exact absurd (Nat.lt_one_iff.mp inside) other
  | push _ parent _ kind span shape ih =>
    rw [parent?_push]
    split
    · exact ⟨parent, rfl⟩
    · next old =>
      rw [size_push] at inside
      exact ih (by omega)
  | setShape _ k shape ih =>
    rw [ElementTree.setShape, parent?_modifyShape]
    rw [ElementTree.setShape, size_modifyShape] at inside
    exact ih inside
  | setRole _ k role ih =>
    rw [ElementTree.setRole, parent?_modifyShape]
    rw [ElementTree.setRole, size_modifyShape] at inside
    exact ih inside

theorem Built.within_root (built : t.Built) (inside : i < t.size) : t.Within root i := by
  induction i using Nat.strongRecOn with
  | ind i ih =>
    by_cases first : i = root
    · exact first ▸ t.within_self root
    · obtain ⟨p, parent⟩ := built.exists_parent inside first
      have less := built.linked.parent_lt i p parent
      exact List.mem_cons_of_mem _ ((mem_ancestors_iff built.linked parent).mpr
        (ih p less (Nat.lt_trans less inside)))

theorem Built.perm_walk (built : t.Built) : t.walk.Perm (List.range t.size) := by
  have nonempty := built.linked.nonempty
  refine (List.perm_ext_iff_of_nodup (nodup_block built.linked nonempty) List.nodup_range).mpr ?_
  intro j
  rw [List.mem_range]
  constructor
  · exact lt_size_of_mem_walk built.linked
  · exact fun inside => (mem_block_iff built.linked nonempty).mpr (built.within_root inside)

theorem Built.block_infix_walk (built : t.Built) (inside : i < t.size) :
    t.block i <:+: t.walk := by
  induction i using Nat.strongRecOn with
  | ind i ih =>
    by_cases first : i = root
    · exact first ▸ List.infix_refl t.walk
    · obtain ⟨p, parent⟩ := built.exists_parent inside first
      have less := built.linked.parent_lt i p parent
      have whole := ih p less (Nat.lt_trans less inside)
      exact (block_infix_of_mem built.linked ((mem_childrenOf_iff built.linked).mpr parent)
        (Nat.lt_trans less inside)).trans whole

/-- How the elements of a tree are linked, and how the walk goes through them. -/
structure Walked (t : ElementTree) : Prop where
  parent_lt : ∀ i < t.size, i ≠ root → ∃ p < i, t.parent? i = some p ∧ (t.childrenOf p).count i = 1
  children_lt : ∀ i, (t.childrenOf i).Pairwise (· < ·)
  root_not_mem : ∀ i, root ∉ t.childrenOf i
  /-- The walk ends of itself: nothing is left to be visited. -/
  ends : t.Visits [root] t.walk
  steps : ∀ n, t.walkFrom n [root] = t.walk.take n
  length_walk : t.walk.length = t.size
  perm_walk : t.walk.Perm (List.range t.size)
  /-- The walk is not interrupted between an element and all that is below it. -/
  block_infix : ∀ i < t.size, t.block i <:+: t.walk
  mem_block_iff : ∀ i < t.size, ∀ j, j ∈ t.block i ↔ j = i ∨ i ∈ t.ancestors j
  block_eq : ∀ i < t.size, t.block i = i :: (t.childrenOf i).flatMap t.block
  above_first : ∀ i j, j < t.size → i ∈ t.ancestors j → [i, j].Sublist t.walk
  siblings : ∀ i c d, [c, d].Sublist (t.childrenOf i) → (t.block c ++ t.block d).Sublist t.walk
  searched : t.Searched
  answers : ∀ i < t.size, (t.enclosingFunction? i).isSome ∧ (t.bindingName? i).isSome

theorem walked_of_built (built : t.Built) : t.Walked := by
  have linked := built.linked
  constructor
  case parent_lt =>
    intro i inside other
    obtain ⟨p, parent⟩ := built.exists_parent inside other
    have nodup := (pairwise_childrenOf linked p).imp Nat.ne_of_lt
    exact ⟨p, linked.parent_lt i p parent, parent,
      List.count_eq_one_of_mem nodup ((mem_childrenOf_iff linked).mpr parent)⟩
  case children_lt => exact pairwise_childrenOf linked
  case root_not_mem =>
    intro i child
    exact Nat.not_lt_zero i (linked.parent_lt root i ((mem_childrenOf_iff linked).mp child))
  case ends => exact linked.searched.walk
  case steps => exact linked.searched.walk.walkFrom_take
  case length_walk => rw [built.perm_walk.length_eq, List.length_range]
  case perm_walk => exact built.perm_walk
  case block_infix => exact fun i inside => built.block_infix_walk inside
  case mem_block_iff =>
    intro i inside j
    rw [ElementTree.mem_block_iff linked inside, Within, List.mem_cons, eq_comm]
  case block_eq => exact fun i inside => ElementTree.block_eq linked inside
  case above_first =>
    intro i j inside above
    have less := Nat.lt_trans (lt_of_mem_ancestors linked above) inside
    have within : j ∈ t.block i :=
      (ElementTree.mem_block_iff linked less).mpr (List.mem_cons_of_mem _ above)
    have later : j ≠ i := Nat.ne_of_gt (lt_of_mem_ancestors linked above)
    refine List.Sublist.trans ?_ (built.block_infix_walk less).sublist
    rw [ElementTree.block_eq linked less] at within ⊢
    exact (List.singleton_sublist.mpr ((List.mem_cons.mp within).resolve_left later)).cons_cons i
  case siblings =>
    intro i c d pair
    have inside : i < t.size := by
      have child := pair.subset List.mem_cons_self
      have less := linked.parent_lt c i ((mem_childrenOf_iff linked).mp child)
      exact Nat.lt_trans less (lt_size_of_mem_childrenOf linked child)
    refine List.Sublist.trans ?_ (built.block_infix_walk inside).sublist
    rw [ElementTree.block_eq linked inside]
    have both := pair.flatMap t.block
    rw [List.flatMap_cons, List.flatMap_singleton] at both
    exact both.cons i
  case searched => exact linked.searched
  case answers =>
    intro i inside
    obtain ⟨e, found⟩ := exists_element inside
    rw [enclosingFunction?_eq inside, bindingName?, found]
    refine ⟨rfl, ?_⟩
    cases own : e.name? <;> simp [own]

/-- Elements that enter by turns below one and below another, with a shape that leads nowhere. -/
def entwined : ElementTree :=
  (((((new "program" none).push 0 "a" none .other).push 0 "b" none (.call 9 [7])).push 1 "c" none
    .other).push 2 "d" none (.function none [] none)).push 1 "e" none (.identifier "e" .read)

theorem built_entwined : entwined.Built :=
  .push (.push (.push (.push (.push (.new "program" none) 0 (by decide) "a" none .other) 0
    (by decide) "b" none (.call 9 [7])) 1 (by decide) "c" none .other) 2 (by decide) "d" none
    (.function none [] none)) 1 (by decide) "e" none (.identifier "e" .read)

theorem walked_of_built_entwined : entwined.Built ∧ entwined.Walked ∧
    entwined.walk = [0, 1, 3, 5, 2, 4] ∧ [1, 3, 5] <:+: entwined.walk := by
  have walked := walked_of_built built_entwined
  exact ⟨built_entwined, walked, by decide, walked.block_infix 1 (by decide)⟩

end CrossReference.ElementTree
