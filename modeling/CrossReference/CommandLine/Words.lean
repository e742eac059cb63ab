import CrossReference.CommandLine.Switch
import CrossReference.Text.Decimal

set_option autoImplicit false

/-!
# Words of a command line

The words are read from left to right. Options stand before or after the verb; those after it belong
to it, and each option is given at most once on either side. What follows two dashes is no option.
The first word that is out of place decides: nothing after it is looked at.
-/
namespace CrossReference.CommandLine

inductive Stop
  | misuse
  | help
  | version
deriving DecidableEq, Repr

structure Given where
  verbose : Bool := false
  force : Bool := false
  config : Option String := none
  format : Option Format := none
  port : Option UInt16 := none
  operand : Option String := none
deriving DecidableEq, Repr

def path? (value : List Char) : Option String :=
  if value = [] then none else some (String.ofList value)

def port? : List Char → Option UInt16
  | '-' :: digits => if Text.Decimal.ofDigits? digits = some 0 then some 0 else none
  | value => (Text.Decimal.readBelow? UInt16.size value).map UInt16.ofNat

def fill {α : Type} (place read : Option α) : Except Stop (Option α) :=
  match place, read with
  | none, some a => .ok (some a)
  | _, _ => .error .misuse

namespace Given

def set (g : Given) (s : Switch) (value : List Char) : Except Stop Given :=
  match s with
  | .config => do return { g with config := ← fill g.config (path? value) }
  | .format => do return { g with format := ← fill g.format (Format.ofName? (String.ofList value)) }
  | .port => do return { g with port := ← fill g.port (port? value) }
  | .help | .version | .verbose | .force => .error .misuse

def turnOn (g : Given) : Switch → Except Stop Given
  | .help => .error .help
  | .version => .error .version
  | .verbose => if g.verbose then .error .misuse else .ok { g with verbose := true }
  | .force => if g.force then .error .misuse else .ok { g with force := true }
  | .config | .format | .port => .error .misuse

def addOperand (g : Given) (verb : Verb) (text : String) : Except Stop Given :=
  match verb with
  | .analyze | .watch => do return { g with operand := ← fill g.operand (path? text.toList) }
  | .span => do return { g with operand := ← fill g.operand (some text) }
  | .serve | .init => .error .misuse

/-- Reads the letters of short options. A letter whose option takes a value takes all that is left,
    or else waits for the next word. -/
def readLetters (g : Given) (verb : Option Verb) :
    List Char → Except Stop (Given × Option Switch)
  | [] => .ok (g, none)
  | c :: rest =>
    match Switch.ofLetter? verb c with
    | none => .error .misuse
    | some s =>
      if s.takesValue then
        match rest with
        | [] => .ok (g, some s)
        | '=' :: value => (g.set s value).map fun g => (g, none)
        | value => (g.set s value).map fun g => (g, none)
      else do (← g.turnOn s).readLetters verb rest

def readName (g : Given) (verb : Option Verb) (name : List Char) (value : Option (List Char)) :
    Except Stop (Given × Option Switch) :=
  match Switch.ofName? verb name, value with
  | none, _ => .error .misuse
  | some s, some value => (g.set s value).map fun g => (g, none)
  | some s, none =>
    if s.takesValue then .ok (g, some s) else (g.turnOn s).map fun g => (g, none)

end Given

/-- All that was read so far: `outer` stood before the verb, `given` on this side of it. -/
structure Reading where
  verb : Option Verb := none
  outer : Given := {}
  given : Given := {}
deriving DecidableEq, Repr

namespace Reading

def isTopic : List String → Bool
  | [] => true
  | [topic] => topic = "help" || (Verb.ofName? topic).isSome
  | _ => false

def addOperand (r : Reading) (text : String) : Except Stop Reading :=
  match r.verb with
  | none => .error .misuse
  | some verb => do return { r with given := ← r.given.addOperand verb text }

def enter (r : Reading) (verb : Verb) : Reading :=
  { verb := some verb, outer := r.given, given := {} }

/-- Reads words. An option that waits for its value takes the next word, if that is an operand. -/
def readWords (r : Reading) (waiting : Option Switch) : List String → Except Stop Reading
  | [] => if waiting.isSome then .error .misuse else .ok r
  | text :: rest =>
    match Word.ofChars text.toList, waiting, r.verb with
    | .operand, some s, _ => do
      let given ← r.given.set s text.toList
      readWords { r with given } none rest
    | .operand, none, some _ => do
      readWords (← r.addOperand text) none rest
    | .operand, none, none =>
      match Verb.ofName? text with
      | some verb => readWords (r.enter verb) none rest
      | none => .error (if text = "help" && isTopic rest then .help else .misuse)
    | .divider, none, _ => rest.foldlM addOperand r
    | .long name value, none, verb => do
      let (given, waiting) ← r.given.readName verb name value
      readWords { r with given } waiting rest
    | .short letters, none, verb => do
      let (given, waiting) ← r.given.readLetters verb letters
      readWords { r with given } waiting rest
    | _, some _, _ => .error .misuse

def command? (r : Reading) : Option Command := do
  match ← r.verb with
  | .analyze => return .analyze (← r.given.operand) (r.given.format.getD .json)
  | .watch => return .watch (← r.given.operand) (r.given.format.getD .json)
  | .serve => return .serve r.given.port
  | .span => return .span (← r.given.operand)
  | .init => return .init r.given.force

/-- The invocation that was read. An option given on both sides counts as given after the verb. -/
def invocation? (r : Reading) : Option Invocation := do
  return { command := ← r.command?, settingsPath := r.given.config <|> r.outer.config
           verbose := r.outer.verbose || r.given.verbose }

end Reading

def Invocation.read (words : List String) : Except Stop Invocation := do
  let reading ← Reading.readWords {} none words
  match reading.invocation? with
  | some invocation => .ok invocation
  | none => .error .misuse

end CrossReference.CommandLine
