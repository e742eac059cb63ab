import CrossReference.Toml.Scalar
import CrossReference.Toml.Tables

set_option autoImplicit false

/-!
# Reading TOML documents

A document is a list of lines: pairs, headings and blanks. Values are nested at most as deep as the
limit allows.
-/
namespace CrossReference.Toml

def skipComment : List Char → List Char
  | '#' :: rest => rest.dropWhile isPlain
  | cs => cs

/-- What follows blanks, comments and line breaks. Each step passes over one line. -/
def skipLines : Nat → List Char → List Char
  | 0, cs => cs
  | steps + 1, cs =>
    let rest := skipComment (skipSpace cs)
    match newline? rest with
    | some rest => skipLines steps rest
    | none => rest

def skipAllLines (cs : List Char) : List Char := skipLines cs.length cs

def lineEnd? (cs : List Char) : Option (List Char) :=
  match skipComment (skipSpace cs) with
  | [] => some []
  | rest => newline? rest

def splitPath? (keys : List String) : Option (List String × String) :=
  keys.getLast?.map fun last => (keys.dropLast, last)

def pair? (value? : List Char → Option (Toml × List Char)) (cs : List Char) :
    Option (Pair × List Char) := do
  let (keys, rest) ← path? nestingLimit cs
  let (path, key) ← splitPath? keys
  match rest with
  | '=' :: rest =>
    let (v, rest) ← value? (skipSpace rest)
    return (⟨path, key, v⟩, rest)
  | _ => none

/-- The items of an array from the first on, and the bracket that closes it. There may be a comma
    behind the last item. -/
def items? (value? : List Char → Option (Toml × List Char)) :
    Nat → List Char → Option (List Toml × List Char)
  | 0, _ => none
  | steps + 1, cs =>
    match skipAllLines cs with
    | ']' :: rest => some ([], rest)
    | cs => do
      let (v, rest) ← value? cs
      match skipAllLines rest with
      | ']' :: rest => some ([v], rest)
      | ',' :: rest => (items? value? steps rest).map fun (vs, rest) => (v :: vs, rest)
      | _ => none

def inlinePairs? (value? : List Char → Option (Toml × List Char)) :
    Nat → List Char → Option (List Pair × List Char)
  | 0, _ => none
  | steps + 1, cs => do
    let (p, rest) ← pair? value? cs
    match skipSpace rest with
    | '\x7d' :: rest => some ([p], rest)
    | ',' :: rest => (inlinePairs? value? steps rest).map fun (ps, rest) => (p :: ps, rest)
    | _ => none

/-- A value, in which arrays and inline tables are nested at most `depth` levels. -/
def value? : Nat → List Char → Option (Toml × List Char)
  | depth, cs =>
    match cs with
    | '"' :: _ | '\'' :: _ =>
      (string? cs).map fun (text, rest) => (.string (String.ofList text), rest)
    | '[' :: rest =>
      match depth with
      | 0 => none
      | depth + 1 => (items? (value? depth) (rest.length + 1) rest).map fun (items, rest) =>
          (.array items, rest)
    | '\x7b' :: rest =>
      match depth with
      | 0 => none
      | depth + 1 =>
        match skipSpace rest with
        | '\x7d' :: rest => some (.table [], rest)
        | _ => do
          let (pairs, rest) ← inlinePairs? (value? depth) rest.length rest
          let entries ← addPairs [] pairs
          return (.table (entriesToToml entries), rest)
    | cs =>
      let (w, rest) := word cs
      (ofWord? w).map fun v => (v, rest)

/-- A heading: in double brackets or not, and its keys. -/
def heading? : List Char → Option ((Bool × List String) × List Char)
  | '[' :: '[' :: rest => do
    let (keys, rest) ← path? nestingLimit rest
    match rest with
    | ']' :: ']' :: rest => some ((true, keys), rest)
    | _ => none
  | '[' :: rest => do
    let (keys, rest) ← path? nestingLimit rest
    match rest with
    | ']' :: rest => some ((false, keys), rest)
    | _ => none
  | _ => none

/-- Reads the lines of a document: the pairs up to the next heading, and the sections from there. -/
def lines? : Nat → List Char → Option (List Pair × List Section)
  | 0, _ => none
  | steps + 1, cs =>
    match skipAllLines cs with
    | [] => some ([], [])
    | '[' :: rest => do
      let ((repeated, keys), rest) ← heading? ('[' :: rest)
      let (path, key) ← splitPath? keys
      let (pairs, sections) ← lines? steps (← lineEnd? rest)
      return ([], ⟨repeated, path, key, pairs⟩ :: sections)
    | cs => do
      let (p, rest) ← pair? (value? nestingLimit) cs
      let (pairs, sections) ← lines? steps (← lineEnd? rest)
      return (p :: pairs, sections)

/-- A mark of the byte order may stand in front of a document. -/
def skipMark : List Char → List Char
  | '\ufeff' :: rest => rest
  | cs => cs

def parse? (s : String) : Option Toml := do
  let cs := skipMark s.toList
  let (pairs, sections) ← lines? (cs.length + 1) cs
  let entries ← assemble pairs sections
  return .table (entriesToToml entries)

end CrossReference.Toml
