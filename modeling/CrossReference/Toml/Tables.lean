import CrossReference.Toml.Value

set_option autoImplicit false

/-!
# Putting TOML tables together

The tables of a document are given piece by piece: by headings, by keys with dots, and by inline
tables. A piece may add to a table that was only named on the way to another, but a table or key
that was given before is not given again.
-/
namespace CrossReference.Toml

inductive Entry
  | value (v : Toml)
  /-- A table is `implicit` while no heading of its own was read, and `dotted` if a key with dots
      made it. -/
  | table (implicit dotted : Bool) (entries : List (String × Entry))
  | tables (each : List (List (String × Entry)))

abbrev Entries := List (String × Entry)

def Entries.get? (entries : Entries) (key : String) : Option Entry := entries.lookup key

def Entries.put (entries : Entries) (key : String) (e : Entry) : Entries :=
  match entries with
  | [] => [(key, e)]
  | (k, old) :: rest => if k = key then (k, e) :: rest else (k, old) :: Entries.put rest key e

mutual
def Entry.toToml : Entry → Toml
  | .value v => v
  | .table _ _ entries => .table (entriesToToml entries)
  | .tables each => .array (tablesToToml each)

def entriesToToml : List (String × Entry) → List (String × Toml)
  | [] => []
  | (key, e) :: rest => (key, e.toToml) :: entriesToToml rest

def tablesToToml : List (List (String × Entry)) → List Toml
  | [] => []
  | entries :: rest => .table (entriesToToml entries) :: tablesToToml rest
end

def changeLast (change : Entries → Option Entries) : List Entries → Option (List Entries)
  | [] => none
  | [last] => (change last).map fun last => [last]
  | first :: rest => (changeLast change rest).map (first :: ·)

def addPair (key : String) (v : Toml) : List String → Entries → Option Entries
  | [], entries =>
    match entries.get? key with
    | none => some (entries.put key (.value v))
    | some _ => none
  | k :: keys, entries =>
    match entries.get? k with
    | none => (addPair key v keys []).map fun inner => entries.put k (.table true true inner)
    | some (.table implicit dotted inner) =>
      if implicit && (dotted || !keys.isEmpty) then
        (addPair key v keys inner).map fun inner => entries.put k (.table implicit dotted inner)
      else none
    | some (.tables each) =>
      if keys.isEmpty then none
      else (changeLast (addPair key v keys) each).map fun each => entries.put k (.tables each)
    | some (.value _) => none

structure Pair where
  path : List String
  key : String
  value : Toml

def addPairs (entries : Entries) (pairs : List Pair) : Option Entries :=
  pairs.foldlM (fun entries p => addPair p.key p.value p.path entries) entries

def changeAt (change : Entries → Option Entries) : List String → Entries → Option Entries
  | [], entries => change entries
  | k :: keys, entries =>
    match entries.get? k with
    | none => (changeAt change keys []).map fun inner => entries.put k (.table true false inner)
    | some (.table implicit dotted inner) =>
      (changeAt change keys inner).map fun inner => entries.put k (.table implicit dotted inner)
    | some (.tables each) =>
      (changeLast (changeAt change keys) each).map fun each => entries.put k (.tables each)
    | some (.value _) => none

/-- A heading, in double brackets if it is `repeated`, and the pairs below it. -/
structure Section where
  repeated : Bool
  path : List String
  key : String
  pairs : List Pair

def Section.addTo (s : Section) (entries : Entries) : Option Entries :=
  match s.repeated, entries.get? s.key with
  | false, none =>
    (addPairs [] s.pairs).map fun inner => entries.put s.key (.table false false inner)
  | false, some (.table true false inner) =>
    (addPairs inner s.pairs).map fun inner => entries.put s.key (.table false false inner)
  | true, none => (addPairs [] s.pairs).map fun inner => entries.put s.key (.tables [inner])
  | true, some (.tables each) =>
    (addPairs [] s.pairs).map fun inner => entries.put s.key (.tables (each ++ [inner]))
  | _, _ => none

def assemble (pairs : List Pair) (sections : List Section) : Option Entries := do
  let entries ← addPairs [] pairs
  sections.foldlM (fun entries s => changeAt s.addTo s.path entries) entries

end CrossReference.Toml
