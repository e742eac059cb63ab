import CrossReference.Json.Record
import CrossReference.Parse.Node

set_option autoImplicit false

/-!
# Parse trees in JSON

A parser of its own hands its trees over as a list of records, each with a source and the rows of
its tree. A row is an array: the row of the parent, the kind, both ends of the span, flags in
letters, and, where the grammar names parts of the node, an object of the rows of these parts.
-/
namespace CrossReference

def Field.ofName? : String → Option Field
  | "alias" => some .alias
  | "arguments" => some .arguments
  | "body" => some .body
  | "function" => some .function
  | "kind" => some .kind
  | "left" => some .left
  | "name" => some .name
  | "parameter" => some .parameter
  | "parameters" => some .parameters
  | "value" => some .value
  | _ => none

namespace ParseRow

def number? (v : Json) : Option Nat := v.naturalBelow? UInt64.size

def parts? : List Json → Option (List (Field × Nat))
  | [] => some []
  | [.object members] => do
    let named ← Json.keys? members
    let known := named.filterMap fun (name, v) => (Field.ofName? name).map fun f => (f, v)
    known.mapM fun (f, v) => (number? v).map fun row => (f, row)
  | _ => none

def ofJson? : Json → Option ParseRow
  | .array (parent :: kind :: start :: stop :: flags :: rest) => do
    return { parent := number? parent, kind := ← kind.text?
             span := ⟨UInt64.ofNat (← number? start), UInt64.ofNat (← number? stop)⟩
             flags := (← flags.text?).toList, fields := ← parts? rest }
  | _ => none

end ParseRow

structure ParseStore where
  trees : List (String × ParseNode)

namespace ParseStore

def entry? (v : Json) : Option (String × ParseNode) := do
  let fields ← v.fields? ["source", "rows"]
  let source ← Json.required Json.text? (fields.getD 0 none)
  let rows ← Json.required Json.items? (fields.getD 1 none)
  return (source, ← ParseNode.ofRows? (← rows.mapM ParseRow.ofJson?))

def ofJson? (v : Json) : Option ParseStore := do return ⟨← (← v.items?).mapM entry?⟩

def unreadable (source : String) : ParseNode :=
  .mk { number := 0, kind := "program", span := ⟨0, UInt64.ofNat source.utf8ByteSize⟩
        isNamed := true, isExtra := false, isError := true, isMissing := false
        hasFault := true } [] []

/-- The tree of a source. One that is not in the store does not count as parsed. -/
def parse (s : ParseStore) (source : String) : ParseNode :=
  (s.trees.lookup source).getD (unreadable source)

end ParseStore
end CrossReference
