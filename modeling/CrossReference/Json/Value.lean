import CrossReference.Text.Hex
import CrossReference.Text.Decimal

set_option autoImplicit false

/-!
# JSON values

Numbers and strings are kept as they are written and understood only when they are asked for: a part
that nobody asks for has to be well-formed and no more. Members stay in order, also repeated ones.
-/
namespace CrossReference

inductive Json
  | null
  | bool (value : Bool)
  | number (written : List Char)
  /-- What stands between the quotes, escapes and all. -/
  | string (written : List Char)
  | array (items : List Json)
  | object (members : List (List Char × Json))

namespace Json

def escapeChar (c : Char) : List Char :=
  match c with
  | '"' => ['\\', '"']
  | '\\' => ['\\', '\\']
  | '\x08' => ['\\', 'b']
  | '\t' => ['\\', 't']
  | '\n' => ['\\', 'n']
  | '\x0c' => ['\\', 'f']
  | '\r' => ['\\', 'r']
  | c => if c.toNat < 0x20 then '\\' :: 'u' :: Text.Hex.lower 4 c.toNat else [c]

def escape (cs : List Char) : List Char := cs.flatMap escapeChar

def unescapeLetter? : Char → Option Char
  | '"' => some '"'
  | '\\' => some '\\'
  | '/' => some '/'
  | 'b' => some '\x08'
  | 'f' => some '\x0c'
  | 'n' => some '\n'
  | 'r' => some '\r'
  | 't' => some '\t'
  | _ => none

/-- The code units that a written string stands for: code points, and surrogates where they are
    written as escapes. -/
def unitsOf? : List Char → Option (List Nat)
  | [] => some []
  | '\\' :: 'u' :: a :: b :: c :: d :: rest =>
    if [a, b, c, d].all Text.Hex.isDigit then
      (unitsOf? rest).map (Text.Hex.ofDigits [a, b, c, d] :: ·)
    else none
  | '\\' :: letter :: rest => do
    let c ← unescapeLetter? letter
    return c.toNat :: (← unitsOf? rest)
  | c :: rest => (unitsOf? rest).map (c.toNat :: ·)

def isHighSurrogate (unit : Nat) : Bool := 0xD800 ≤ unit && unit < 0xDC00

def isLowSurrogate (unit : Nat) : Bool := 0xDC00 ≤ unit && unit < 0xE000

def joinUnits? : List Nat → Option (List Char)
  | [] => some []
  | high :: low :: rest =>
    if isHighSurrogate high then
      if isLowSurrogate low then
        (joinUnits? rest).map
          (Char.ofNat (0x10000 + (high - 0xD800) * 0x400 + (low - 0xDC00)) :: ·)
      else none
    else if isLowSurrogate high then none
    else (joinUnits? (low :: rest)).map (Char.ofNat high :: ·)
  | [unit] =>
    if isHighSurrogate unit || isLowSurrogate unit then none else some [Char.ofNat unit]

def unescape? (written : List Char) : Option (List Char) := (unitsOf? written).bind joinUnits?

def text (s : String) : Json := .string (escape s.toList)

def natural (n : Nat) : Json := .number (Text.Decimal.write n)

def record (members : List (String × Json)) : Json :=
  .object (members.map fun m => (m.1.toList, m.2))

def text? : Json → Option String
  | .string written => (unescape? written).map String.ofList
  | _ => none

def bool? : Json → Option Bool
  | .bool value => some value
  | _ => none

def naturalBelow? (bound : Nat) : Json → Option Nat
  | .number written => (Text.Decimal.ofDigits? written).filter (· < bound)
  | _ => none

def items? : Json → Option (List Json)
  | .array items => some items
  | _ => none

def quote (written : List Char) : List Char := '"' :: written ++ ['"']

mutual
def compact : Json → List Char
  | .null => "null".toList
  | .bool true => "true".toList
  | .bool false => "false".toList
  | .number written => written
  | .string written => quote written
  | .array [] => "[]".toList
  | .array (v :: rest) => '[' :: compact v ++ compactItems rest
  | .object [] => "\x7b\x7d".toList
  | .object ((key, v) :: rest) => '\x7b' :: quote key ++ ':' :: compact v ++ compactMembers rest

def compactItems : List Json → List Char
  | [] => [']']
  | v :: rest => ',' :: compact v ++ compactItems rest

def compactMembers : List (List Char × Json) → List Char
  | [] => ['\x7d']
  | (key, v) :: rest => ',' :: quote key ++ ':' :: compact v ++ compactMembers rest
end

def newline (level : Nat) : List Char := '\n' :: List.replicate (2 * level) ' '

mutual
def pretty (level : Nat) : Json → List Char
  | .array (v :: rest) =>
    '[' :: newline (level + 1) ++ pretty (level + 1) v ++ prettyItems level rest
  | .object ((key, v) :: rest) =>
    '\x7b' :: newline (level + 1) ++ quote key ++ ':' :: ' ' :: pretty (level + 1) v
      ++ prettyMembers level rest
  | v => compact v

def prettyItems (level : Nat) : List Json → List Char
  | [] => newline level ++ [']']
  | v :: rest => ',' :: newline (level + 1) ++ pretty (level + 1) v ++ prettyItems level rest

def prettyMembers (level : Nat) : List (List Char × Json) → List Char
  | [] => newline level ++ ['\x7d']
  | (key, v) :: rest =>
    ',' :: newline (level + 1) ++ quote key ++ ':' :: ' ' :: pretty (level + 1) v
      ++ prettyMembers level rest
end

def toCompact (v : Json) : String := String.ofList v.compact

def toPretty (v : Json) : String := String.ofList (v.pretty 0)

end Json
end CrossReference
