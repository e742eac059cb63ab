import CrossReference.Graph.Basic

set_option autoImplicit false

/-!
# Invocations

What a command line can ask for, free of how it is spelled.
-/
namespace CrossReference.CommandLine

inductive Format
  | json
  | table
  | stats
deriving DecidableEq, Repr

def Format.ofName? : String → Option Format
  | "json" => some .json
  | "table" => some .table
  | "stats" => some .stats
  | _ => none

inductive Verb
  | analyze
  | watch
  | serve
  | span
  | init
deriving DecidableEq, Repr

def Verb.ofName? : String → Option Verb
  | "analyze" => some .analyze
  | "watch" => some .watch
  | "serve" => some .serve
  | "span" => some .span
  | "init" => some .init
  | _ => none

inductive Command
  | analyze (source : String) (format : Format)
  | watch (source : String) (format : Format)
  | serve (port : Option UInt16)
  | span (id : String)
  | init (force : Bool)
deriving DecidableEq, Repr

structure Invocation where
  command : Command
  settingsPath : Option String := none
  verbose : Bool := false
deriving DecidableEq, Repr

end CrossReference.CommandLine
