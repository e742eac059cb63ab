set_option autoImplicit false

/-!
# TOML values

What a TOML document can hold. Dates, times and numbers with a fraction are told apart from the
other values, but nothing asks for what they say.
-/
namespace CrossReference

inductive Toml
  | string (value : String)
  | integer (value : Int)
  | bool (value : Bool)
  | fraction
  | moment
  | array (items : List Toml)
  | table (entries : List (String × Toml))

namespace Toml

/-- Integers have a sign and fit in 64 bits: they reach from minus this bound up to it, less one. -/
def integerBound : Nat := 0x8000000000000000

def nestingLimit : Nat := 79

end Toml
end CrossReference
