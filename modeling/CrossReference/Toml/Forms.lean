import CrossReference.Json.Forms
import CrossReference.Settings
import CrossReference.Toml.Document
import CrossReference.Toml.Write

set_option autoImplicit false

/-!
# Settings in TOML

A document gives settings by name and may leave any of them out. A record may also be given as an
array of its first fields. What has no meaning is passed over.
-/
namespace CrossReference

namespace Toml

/-- The value of each field of a record, where it is given. A date or time gives none. -/
def fields? (names : List String) : Toml → Option (List (Option Toml))
  | .moment => some (names.map fun _ => none)
  | .table entries => some (names.map fun name => entries.lookup name)
  | .array items => some ((List.range names.length).map fun i => items[i]?)
  | _ => none

def optional {α : Type} (fallback : α) (read : Toml → Option α) : Option Toml → Option α
  | none => some fallback
  | some v => read v

def text? : Toml → Option String
  | .string s => some s
  | _ => none

def bool? : Toml → Option Bool
  | .bool b => some b
  | _ => none

def naturalBelow? (bound : Nat) : Toml → Option Nat
  | .integer n => if 0 ≤ n ∧ n < bound then some n.toNat else none
  | _ => none

def isEmpty : Toml → Bool
  | .table [] | .array [] => true
  | _ => false

/-- A name that stands for one of several choices, alone or as the only key of a table beside
    something empty. -/
def choice? : Toml → Option String
  | .string s => some s
  | .table [(name, v)] => if v.isEmpty then some name else none
  | _ => none

end Toml

def Palette.ofToml? (v : Toml) : Option Palette := do
  let fields ← v.fields?
    ["reference", "call_callee", "call_argument_binding", "value_assignment", "return_argument"]
  let color (i : Nat) (r : Relation) : Option String :=
    Toml.optional r.defaultColor Toml.text? (fields.getD i none)
  return ⟨← color 0 .reference, ← color 1 .callCallee, ← color 2 .callArgumentBinding,
    ← color 3 .valueAssignment, ← color 4 .returnArgument⟩

def AnalysisSettings.ofToml? (v : Toml) : Option AnalysisSettings := do
  let fields ← v.fields? ["strict", "label", "excerpt_width"]
  let plain : AnalysisSettings := {}
  return ⟨← Toml.optional plain.strict Toml.bool? (fields.getD 0 none),
    ← Toml.optional plain.label (fun v => v.choice?.bind LabelMode.ofName?) (fields.getD 1 none),
    ← Toml.optional plain.excerptWidth
      (fun v => (v.naturalBelow? UInt64.size).map UInt64.ofNat) (fields.getD 2 none)⟩

def ServerSettings.ofToml? (v : Toml) : Option ServerSettings := do
  let fields ← v.fields? ["port"]
  let plain : ServerSettings := {}
  return ⟨← Toml.optional plain.port
    (fun v => (v.naturalBelow? UInt16.size).map UInt16.ofNat) (fields.getD 0 none)⟩

def Settings.ofToml? (v : Toml) : Option Settings := do
  let fields ← v.fields? ["analysis", "palette", "server"]
  return ⟨← Toml.optional {} AnalysisSettings.ofToml? (fields.getD 0 none),
    ← Toml.optional {} Palette.ofToml? (fields.getD 1 none),
    ← Toml.optional {} ServerSettings.ofToml? (fields.getD 2 none)⟩

namespace Settings

def tables (s : Settings) : List (String × List (String × Toml.Setting)) :=
  [("analysis",
    [("strict", .flag s.analysis.strict), ("label", .text s.analysis.label.name),
     ("excerpt_width", .number s.analysis.excerptWidth.toNat)]),
   ("palette",
    [("reference", .text s.palette.reference), ("call_callee", .text s.palette.callCallee),
     ("call_argument_binding", .text s.palette.callArgumentBinding),
     ("value_assignment", .text s.palette.valueAssignment),
     ("return_argument", .text s.palette.returnArgument)]),
   ("server", [("port", .number s.server.port.toNat)])]

/-- The document of settings, unless a number is too large for one. -/
def write? (s : Settings) : Option String := (Toml.writeTables? s.tables).map String.ofList

def parse? (text : String) : Option Settings := (Toml.parse? text).bind ofToml?

end Settings
end CrossReference
