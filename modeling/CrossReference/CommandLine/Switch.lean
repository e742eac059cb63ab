import CrossReference.CommandLine.Invocation
import CrossReference.Text.Split

set_option autoImplicit false

/-!
# Options

How options are written on a command line, and beside which verbs each of them may stand.
-/
namespace CrossReference.CommandLine

inductive Word
  | operand
  | divider
  | long (name : List Char) (value : Option (List Char))
  | short (letters : List Char)
deriving DecidableEq, Repr

/-- One dash begins short options, two begin a long one, which an equals sign parts from its value.
    A dash alone is an operand. -/
def Word.ofChars : List Char → Word
  | ['-', '-'] => .divider
  | '-' :: '-' :: rest =>
    match Text.splitFirst? '=' rest with
    | some (name, value) => .long name (some value)
    | none => .long rest none
  | '-' :: c :: letters => .short (c :: letters)
  | _ => .operand

inductive Switch
  | help
  | version
  | verbose
  | config
  | format
  | port
  | force
deriving DecidableEq, Repr

namespace Switch

def all : List Switch := [help, version, verbose, config, format, port, force]

def name : Switch → String
  | help => "help"
  | version => "version"
  | verbose => "verbose"
  | config => "config"
  | format => "format"
  | port => "port"
  | force => "force"

/-- The short form. Two options that never stand beside the same verb may share a letter. -/
def letter : Switch → Char
  | help => 'h'
  | version => 'V'
  | verbose => 'v'
  | config => 'c'
  | format => 'f'
  | port => 'p'
  | force => 'f'

def takesValue : Switch → Bool
  | config | format | port => true
  | help | version | verbose | force => false

def belongsTo : Switch → Option Verb → Bool
  | help, _ | verbose, _ | config, _ => true
  | version, verb => verb.isNone
  | format, some .analyze | format, some .watch => true
  | port, some .serve => true
  | force, some .init => true
  | _, _ => false

def ofName? (verb : Option Verb) (written : List Char) : Option Switch :=
  all.find? fun s => s.name.toList = written && s.belongsTo verb

def ofLetter? (verb : Option Verb) (c : Char) : Option Switch :=
  all.find? fun s => s.letter = c && s.belongsTo verb

end Switch

end CrossReference.CommandLine
