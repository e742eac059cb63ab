import CrossReference.Element.Basic
import Std.Data.TreeMap

set_option autoImplicit false

/-!
# Scopes

Scopes form a tree under the module scope, number zero. Each scope keeps the declarations of its own
names, and every element is assigned the scope it stands in. A name is looked for in a scope and
then outwards through the scopes around it; the first scope that declares the name decides.
-/
namespace CrossReference

abbrev ScopeId := Nat

inductive ScopeKind
  | module
  | classBody
  | function
  | block
deriving DecidableEq, Repr

def ScopeKind.holdsVar : ScopeKind → Bool
  | .module | .function => true
  | .classBody | .block => false

structure Scope where
  kind : ScopeKind
  parent : Option ScopeId
deriving DecidableEq, Repr

structure ScopeTree where
  scopes : Array Scope
  definitions : Std.TreeMap ScopeId (Std.TreeMap String ElementIndex)
  places : Std.TreeMap ElementIndex ScopeId

namespace ScopeTree

def root : ScopeId := 0

def new : ScopeTree := ⟨#[⟨.module, none⟩], ∅, ∅⟩

def count (t : ScopeTree) : Nat := t.scopes.size

def kind? (t : ScopeTree) (s : ScopeId) : Option ScopeKind := t.scopes[s]?.map Scope.kind

def parent? (t : ScopeTree) (s : ScopeId) : Option ScopeId := t.scopes[s]?.bind Scope.parent

def scopeOf? (t : ScopeTree) (i : ElementIndex) : Option ScopeId := t.places[i]?

def lookupLocal? (t : ScopeTree) (s : ScopeId) (name : String) : Option ElementIndex :=
  t.definitions[s]?.bind (·[name]?)

def addScope (t : ScopeTree) (parent : ScopeId) (kind : ScopeKind) : ScopeTree :=
  { t with scopes := t.scopes.push ⟨kind, some parent⟩ }

/-- Declares a name. A name that is declared already keeps its first declaration. -/
def define (t : ScopeTree) (s : ScopeId) (name : String) (i : ElementIndex) : ScopeTree :=
  { t with definitions := t.definitions.insert s ((t.definitions.getD s ∅).insertIfNew name i) }

def assign (t : ScopeTree) (i : ElementIndex) (s : ScopeId) : ScopeTree :=
  { t with places := t.places.insert i s }

/-- A scope and those around it. No scope lies inside itself, so there are at most as many steps
    outwards as there are scopes. -/
def chainFrom (t : ScopeTree) : Nat → ScopeId → List ScopeId
  | 0, s => [s]
  | steps + 1, s =>
    match t.parent? s with
    | some outer => s :: chainFrom t steps outer
    | none => [s]

def chain (t : ScopeTree) (s : ScopeId) : List ScopeId := t.chainFrom t.count s

def holdsVar (t : ScopeTree) (s : ScopeId) : Bool := (t.kind? s).any ScopeKind.holdsVar

def varScope (t : ScopeTree) (s : ScopeId) : ScopeId := ((t.chain s).find? t.holdsVar).getD root

def lookupFrom (t : ScopeTree) (name : String) : Nat → ScopeId → Option ElementIndex
  | 0, s => t.lookupLocal? s name
  | steps + 1, s =>
    match t.lookupLocal? s name with
    | some i => some i
    | none =>
      match t.parent? s with
      | some outer => lookupFrom t name steps outer
      | none => none

def lookup? (t : ScopeTree) (s : ScopeId) (name : String) : Option ElementIndex :=
  t.lookupFrom name t.count s

def resolve? (t : ScopeTree) (i : ElementIndex) (name : String) : Option ElementIndex :=
  (t.scopeOf? i).bind fun s => t.lookup? s name

/-- Defining a name changes the look-up of that name in that scope alone, and only if it failed. -/
theorem lookupLocal?_define (t : ScopeTree) (s s' : ScopeId) (name name' : String)
    (i : ElementIndex) :
    (t.define s name i).lookupLocal? s' name' =
      if s = s' ∧ name = name' ∧ t.lookupLocal? s name = none then some i
      else t.lookupLocal? s' name' := by
  unfold lookupLocal? define
  rw [Std.TreeMap.getElem?_insert, Std.TreeMap.getD_eq_getD_getElem?]
  by_cases h : s = s'
  · subst h
    cases t.definitions[s]? with
    | none => simp [Std.TreeMap.getElem?_insertIfNew]
    | some m => simp [Std.TreeMap.getElem?_insertIfNew]
  · simp [h]

theorem scopeOf?_assign (t : ScopeTree) (i j : ElementIndex) (s : ScopeId) :
    (t.assign i s).scopeOf? j = if i = j then some s else t.scopeOf? j := by
  simp [scopeOf?, assign, Std.TreeMap.getElem?_insert]

theorem count_addScope (t : ScopeTree) (parent : ScopeId) (kind : ScopeKind) :
    (t.addScope parent kind).count = t.count + 1 := by
  simp [count, addScope]

theorem parent?_addScope (t : ScopeTree) (parent s : ScopeId) (kind : ScopeKind) :
    (t.addScope parent kind).parent? s = if s = t.count then some parent else t.parent? s := by
  by_cases h : s = t.count
  · subst h
    simp [parent?, addScope, count]
  · simp only [parent?, addScope, Array.getElem?_push, if_neg h]
    rw [if_neg (show ¬s = t.scopes.size from h)]

theorem kind?_addScope (t : ScopeTree) (parent s : ScopeId) (kind : ScopeKind) :
    (t.addScope parent kind).kind? s = if s = t.count then some kind else t.kind? s := by
  by_cases h : s = t.count
  · subst h
    simp [kind?, addScope, count]
  · simp only [kind?, addScope, Array.getElem?_push, if_neg h]
    rw [if_neg (show ¬s = t.scopes.size from h)]

end ScopeTree
end CrossReference
