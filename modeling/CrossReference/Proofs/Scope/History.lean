import CrossReference.Proofs.Scope.Nested
import Mathlib.Data.List.Pairwise

set_option autoImplicit false

/-!
# The history of a scope tree

Scopes are opened, names are defined and elements are assigned in any order. Whatever the history,
the scopes around a scope are finitely many and end at the module scope, a look-up goes through them
in order, and a name keeps the element that it was first defined with: `findsNames_of_fit`.
-/
namespace CrossReference.ScopeTree

inductive Change
  | addScope (parent : ScopeId) (kind : ScopeKind)
  | define (s : ScopeId) (name : String) (i : ElementIndex)
  | assign (i : ElementIndex) (s : ScopeId)

def apply (t : ScopeTree) : Change → ScopeTree
  | .addScope parent kind => t.addScope parent kind
  | .define s name i => t.define s name i
  | .assign i s => t.assign i s

def run (t : ScopeTree) (changes : List Change) : ScopeTree := changes.foldl apply t

/-- A scope is opened only inside one that is there. Names may be defined and elements assigned
    anywhere. -/
def Change.Fits (t : ScopeTree) : Change → Prop
  | .addScope parent _ => parent < t.count
  | .define .. | .assign .. => True

def Fit (t : ScopeTree) : List Change → Prop
  | [] => True
  | change :: rest => change.Fits t ∧ (t.apply change).Fit rest

/-- What a change would define a name as, were it the first to define it. -/
def Change.defines? (s : ScopeId) (name : String) : Change → Option ElementIndex
  | .define s' name' i => if s' = s ∧ name' = name then some i else none
  | .addScope .. | .assign .. => none

variable {t : ScopeTree} {changes : List Change}

/-- Each scope lies in others that end at the module scope. -/
structure Rooted (t : ScopeTree) : Prop where
  module : t.Nested [(root, .module)]
  nested : ∀ s < t.count, ∃ kind around, t.Nested ((s, kind) :: around)

theorem rooted_new : new.Rooted where
  module := nested_new
  nested s exist := by
    obtain rfl : s = root := Nat.lt_one_iff.mp exist
    exact ⟨_, [], nested_new⟩

theorem Rooted.congr {t' : ScopeTree} (rooted : t.Rooted) (same : t'.scopes = t.scopes) :
    t'.Rooted := by
  refine ⟨nested_congr same rooted.module, fun s exist => ?_⟩
  rw [count, same] at exist
  obtain ⟨kind, around, nested⟩ := rooted.nested s exist
  exact ⟨kind, around, nested_congr same nested⟩

theorem Rooted.addScope (rooted : t.Rooted) {parent : ScopeId} (inside : parent < t.count)
    (kind : ScopeKind) : (t.addScope parent kind).Rooted := by
  refine ⟨nested_addScope rooted.module parent kind, fun s exist => ?_⟩
  rw [count_addScope] at exist
  rcases Nat.lt_succ_iff_lt_or_eq.mp exist with old | rfl
  · obtain ⟨kind', around, nested⟩ := rooted.nested s old
    exact ⟨kind', around, nested_addScope nested parent kind⟩
  · obtain ⟨outer, around, nested⟩ := rooted.nested parent inside
    exact ⟨kind, (parent, outer) :: around, nested_cons_addScope nested kind⟩

theorem Rooted.apply (rooted : t.Rooted) {change : Change} (fits : change.Fits t) :
    (t.apply change).Rooted := by
  cases change with
  | addScope parent kind => exact rooted.addScope fits kind
  | define s name i => exact rooted.congr rfl
  | assign i s => exact rooted.congr rfl

theorem Rooted.run (rooted : t.Rooted) (fit : t.Fit changes) : (t.run changes).Rooted := by
  induction changes generalizing t with
  | nil => exact rooted
  | cons change rest ih => exact ih (rooted.apply fit.1) fit.2

theorem Rooted.parent_lt (rooted : t.Rooted) {s p : ScopeId} (parent : t.parent? s = some p) :
    p < s := by
  obtain ⟨scope, found, _⟩ := Option.bind_eq_some_iff.mp parent
  obtain ⟨kind, around, nested⟩ := rooted.nested s (Array.getElem?_eq_some_iff.mp found).1
  cases around with
  | nil =>
    rw [nested.2.2.2] at parent
    cases parent
  | cons outer rest =>
    obtain rfl := Option.some.inj (nested.2.1.symm.trans parent)
    exact nested.2.2.1

theorem isChain_of_nested {list : List (ScopeId × ScopeKind)} (h : t.Nested list) :
    (list.map Prod.fst).IsChain fun a b => t.parent? a = some b := by
  induction list with
  | nil => exact h.elim
  | cons first rest ih =>
    cases rest with
    | nil => exact List.IsChain.singleton _
    | cons outer rest => exact List.isChain_cons_cons.mpr ⟨h.2.1, ih (nested_tail h)⟩

theorem getLast?_of_nested {list : List (ScopeId × ScopeKind)} (h : t.Nested list) :
    list.getLast? = some (root, .module) := by
  induction list with
  | nil => exact h.elim
  | cons first rest ih =>
    cases rest with
    | nil =>
      obtain ⟨isRoot, isModule, _⟩ := h
      rw [List.getLast?_singleton, ← isRoot, ← isModule]
    | cons outer rest => rw [List.getLast?_cons_cons, ih (nested_tail h)]

section
variable {s : ScopeId}

theorem Rooted.head?_chain (rooted : t.Rooted) (exist : s < t.count) :
    (t.chain s).head? = some s := by
  obtain ⟨kind, around, nested⟩ := rooted.nested s exist
  rw [chain_of_nested nested, List.map_cons, List.head?_cons]

theorem Rooted.getLast?_chain (rooted : t.Rooted) (exist : s < t.count) :
    (t.chain s).getLast? = some root := by
  obtain ⟨kind, around, nested⟩ := rooted.nested s exist
  rw [chain_of_nested nested, List.getLast?_map, getLast?_of_nested nested]
  rfl

theorem Rooted.isChain_chain (rooted : t.Rooted) (exist : s < t.count) :
    (t.chain s).IsChain fun a b => t.parent? a = some b := by
  obtain ⟨kind, around, nested⟩ := rooted.nested s exist
  rw [chain_of_nested nested]
  exact isChain_of_nested nested

theorem Rooted.nodup_chain (rooted : t.Rooted) (exist : s < t.count) : (t.chain s).Nodup := by
  have falling := (rooted.isChain_chain exist).imp fun a b => rooted.parent_lt
  exact (List.isChain_iff_pairwise.mp falling).imp Nat.ne_of_gt

theorem holdsVar_eq (t : ScopeTree) (s : ScopeId) : t.holdsVar s =
    decide (t.kind? s = some .function ∨ t.kind? s = some .module) := by
  rw [holdsVar]
  cases t.kind? s with
  | none => rfl
  | some kind => cases kind <;> rfl

theorem Rooted.find?_holdsVar (rooted : t.Rooted) (exist : s < t.count) :
    (t.chain s).find? t.holdsVar = some (t.varScope s) := by
  have last := rooted.getLast?_chain exist
  have holds : t.holdsVar root = true := by rw [holdsVar, rooted.module.2.2.1]; rfl
  obtain ⟨o, found⟩ := Option.isSome_iff_exists.mp
    (List.find?_isSome.mpr ⟨root, List.mem_of_getLast? last, holds⟩)
  rw [varScope, found]
  rfl

end

theorem lookupLocal?_apply (t : ScopeTree) (change : Change) (s : ScopeId) (name : String) :
    (t.apply change).lookupLocal? s name = (t.lookupLocal? s name).or (change.defines? s name) := by
  cases change with
  | addScope parent kind => exact (Option.or_none).symm
  | assign i s' => exact (Option.or_none).symm
  | define s' name' i =>
    rw [apply, lookupLocal?_define, Change.defines?]
    by_cases here : s' = s ∧ name' = name
    · obtain ⟨rfl, rfl⟩ := here
      cases t.lookupLocal? s' name' <;> simp
    · rw [if_neg here, if_neg fun all => here ⟨all.1, all.2.1⟩, Option.or_none]

theorem lookupLocal?_run (t : ScopeTree) (changes : List Change) (s : ScopeId) (name : String) :
    (t.run changes).lookupLocal? s name =
      (t.lookupLocal? s name).or (changes.findSome? (Change.defines? s name)) := by
  induction changes generalizing t with
  | nil => exact (Option.or_none).symm
  | cons change rest ih =>
    refine (ih (t.apply change)).trans ?_
    rw [lookupLocal?_apply, Option.or_assoc, List.findSome?_cons]
    cases change.defines? s name <;> rfl

theorem lookupLocal?_new (s : ScopeId) (name : String) : new.lookupLocal? s name = none := by
  have empty : new.definitions[s]? = none := Std.TreeMap.getElem?_emptyc
  rw [lookupLocal?, empty]
  rfl

/-- What can be asked of the tree at the end of a history, and what is answered. -/
structure FindsNames (changes : List Change) (t : ScopeTree) : Prop where
  parent_lt : ∀ s p, t.parent? s = some p → p < s
  parent_exists : ∀ s < t.count, s ≠ root → ∃ p, t.parent? s = some p
  chain_head : ∀ s < t.count, (t.chain s).head? = some s
  chain_parents : ∀ s < t.count, (t.chain s).IsChain fun a b => t.parent? a = some b
  chain_last : ∀ s < t.count, (t.chain s).getLast? = some root ∧ t.parent? root = none
  chain_nodup : ∀ s < t.count, (t.chain s).Nodup
  lookup_eq : ∀ s name, t.lookup? s name = (t.chain s).findSome? fun o => t.lookupLocal? o name
  varScope_eq : ∀ s < t.count, (t.chain s).find? (fun o =>
    t.kind? o = some .function ∨ t.kind? o = some .module) = some (t.varScope s)
  lookupLocal_eq : ∀ s name, t.lookupLocal? s name = changes.findSome? (Change.defines? s name)
  lookupLocal_kept : ∀ s name i later, t.lookupLocal? s name = some i →
    (t.run later).lookupLocal? s name = some i

theorem findsNames_of_fit (changes : List Change) (fit : new.Fit changes) :
    FindsNames changes (new.run changes) := by
  have rooted := rooted_new.run fit
  constructor
  case parent_lt => exact fun s p => rooted.parent_lt
  case parent_exists =>
    intro s exist other
    obtain ⟨kind, around, nested⟩ := rooted.nested s exist
    cases around with
    | nil => exact absurd nested.1 other
    | cons outer rest => exact ⟨outer.1, nested.2.1⟩
  case chain_head => exact fun s => rooted.head?_chain
  case chain_parents => exact fun s => rooted.isChain_chain
  case chain_last => exact fun s exist => ⟨rooted.getLast?_chain exist, rooted.module.2.2.2⟩
  case chain_nodup => exact fun s => rooted.nodup_chain
  case lookup_eq => exact lookup?_eq _
  case varScope_eq =>
    intro s exist
    rw [← rooted.find?_holdsVar exist]
    exact congrArg (List.find? · _) (funext fun o => (holdsVar_eq _ o).symm)
  case lookupLocal_eq =>
    intro s name
    rw [lookupLocal?_run, lookupLocal?_new, Option.none_or]
  case lookupLocal_kept =>
    intro s name i later found
    rw [lookupLocal?_run, found, Option.some_or]

/-- A block inside a block of a function, with a name that is defined in the outer ones, more than
    once, and in a scope that is not there. -/
def shadowed : List Change :=
  [.define 0 "x" 7, .addScope 0 .function, .addScope 1 .block, .assign 3 2, .define 1 "x" 8,
    .define 9 "x" 1, .addScope 2 .block, .define 1 "x" 9]

theorem fit_shadowed : new.Fit shadowed :=
  ⟨trivial, Nat.lt_add_one 0, Nat.lt_add_one 1, trivial, trivial, trivial, Nat.lt_add_one 2,
    trivial, trivial⟩

theorem findsNames_of_fit_shadowed : new.Fit shadowed ∧ (new.run shadowed).chain 3 = [3, 2, 1, 0] ∧
    (new.run shadowed).lookup? 3 "x" = some 8 ∧ (new.run shadowed).varScope 3 = 1 := by
  have found := findsNames_of_fit shadowed fit_shadowed
  have chain : (new.run shadowed).chain 3 = [3, 2, 1, 0] := by decide
  refine ⟨fit_shadowed, chain, ?_, ?_⟩
  · rw [found.lookup_eq, chain]
    simp only [found.lookupLocal_eq]
    decide
  · have var := found.varScope_eq 3 (by decide)
    rw [chain] at var
    exact (Option.some.inj (var.symm.trans (by decide)))

end CrossReference.ScopeTree
