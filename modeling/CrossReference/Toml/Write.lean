import CrossReference.Text.Decimal
import CrossReference.Text.Hex
import CrossReference.Toml.Value

set_option autoImplicit false

/-!
# Writing TOML

A string is written in the first form in which it needs no escapes; only if there is none, in a
basic one with escapes.
-/
namespace CrossReference.Toml

def needsEscape (c : Char) : Bool := c.toNat = 0x7F || (c.toNat < 0x20 && c ≠ '\n' && c ≠ '\t')

/-- The length of the longest run of a character; `run` is that of the run being counted. -/
def longestRun (c : Char) (run : Nat) : List Char → Nat
  | [] => run
  | d :: rest => if d = c then longestRun c (run + 1) rest else max run (longestRun c 0 rest)

inductive StringForm
  | basic
  | literal
  | basicLines
  | literalLines
deriving DecidableEq, Repr

def StringForm.of (cs : List Char) : StringForm :=
  let controls := cs.any needsEscape
  let breaks := cs.contains '\n'
  if !controls && !cs.contains '\\' && !cs.contains '"' && !breaks then .basic
  else if !controls && !cs.contains '\'' && !breaks then .literal
  else if !controls && !cs.contains '\\' && longestRun '"' 0 cs ≤ 2 then .basicLines
  else if !controls && longestRun '\'' 0 cs ≤ 2 then .literalLines
  else if breaks then .basicLines
  else .basic

def escapeChar (c : Char) : List Char :=
  match c with
  | '\x08' => ['\\', 'b']
  | '\t' => ['\\', 't']
  | '\x0c' => ['\\', 'f']
  | '\r' => ['\\', 'r']
  | '\\' => ['\\', '\\']
  | c => if c.toNat < 0x20 || c.toNat = 0x7F then '\\' :: 'u' :: Text.Hex.upper 4 c.toNat else [c]

def escape : List Char → List Char
  | [] => []
  | '\n' :: rest => '\\' :: 'n' :: escape rest
  | '"' :: rest => '\\' :: '"' :: escape rest
  | c :: rest => escapeChar c ++ escape rest

/-- On several lines, only a third quote in a row is escaped; `run` counts those in front. -/
def escapeLines (run : Nat) : List Char → List Char
  | [] => []
  | '\n' :: rest => '\n' :: escapeLines 0 rest
  | '"' :: rest =>
    if run = 2 then '\\' :: '"' :: escapeLines 0 rest else '"' :: escapeLines (run + 1) rest
  | c :: rest => escapeChar c ++ escapeLines 0 rest

/-- A string on several lines starts on a line of its own if it holds a line feed. -/
def firstBreak (cs : List Char) : List Char := if cs.contains '\n' then ['\n'] else []

def writeString (cs : List Char) : List Char :=
  match StringForm.of cs with
  | .basic => '"' :: escape cs ++ ['"']
  | .literal => '\'' :: cs ++ ['\'']
  | .basicLines => ['"', '"', '"'] ++ firstBreak cs ++ escapeLines 0 cs ++ ['"', '"', '"']
  | .literalLines => ['\'', '\'', '\''] ++ firstBreak cs ++ cs ++ ['\'', '\'', '\'']

inductive Setting
  | text (value : String)
  | flag (value : Bool)
  | number (value : Nat)
deriving DecidableEq, Repr

def Setting.write? : Setting → Option (List Char)
  | .text s => some (writeString s.toList)
  | .flag true => some "true".toList
  | .flag false => some "false".toList
  | .number n => if n < integerBound then some (Text.Decimal.write n) else none

def writePair? (key : String) (s : Setting) : Option (List Char) :=
  s.write?.map fun value => key.toList ++ [' ', '=', ' '] ++ value ++ ['\n']

def writeTable? (name : String) (pairs : List (String × Setting)) : Option (List Char) := do
  let lines ← pairs.mapM fun (key, s) => writePair? key s
  return '[' :: name.toList ++ [']', '\n'] ++ lines.flatten

def writeTables? (tables : List (String × List (String × Setting))) : Option (List Char) := do
  let written ← tables.mapM fun (name, pairs) => writeTable? name pairs
  return (written.intersperse ['\n']).flatten

end CrossReference.Toml
