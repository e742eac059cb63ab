import CrossReference.Json.Value

set_option autoImplicit false

/-!
# Records in JSON

A record is written as an object of its fields, in any order and among others that mean nothing, or
as an array of its fields in the order of their declaration.
-/
namespace CrossReference.Json

def keys? (members : List (List Char × Json)) : Option (List (String × Json)) :=
  members.mapM fun (key, v) => (unescape? key).map fun k => (String.ofList k, v)

/-- The value of each field, where it is given. A field given twice is refused, as is an array with
    more items than there are fields. -/
def fields? (names : List String) : Json → Option (List (Option Json))
  | .object members => do
    let known ← keys? members
    if names.all fun name => (known.filter fun m => m.1 = name).length ≤ 1 then
      return names.map fun name => (known.find? fun m => m.1 = name).map Prod.snd
    else none
  | .array items =>
    if items.length ≤ names.length then
      some ((List.range names.length).map fun i => items[i]?)
    else none
  | _ => none

def required {α : Type} (read : Json → Option α) (field : Option Json) : Option α := field.bind read

def optional {α : Type} (fallback : α) (read : Json → Option α) : Option Json → Option α
  | none => some fallback
  | some v => read v

/-- A name that stands for one of several choices, alone or as the only key beside `null`. -/
def choice? : Json → Option String
  | .string written => (unescape? written).map String.ofList
  | .object [(key, .null)] => (unescape? key).map String.ofList
  | _ => none

end CrossReference.Json
