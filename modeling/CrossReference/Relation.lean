import CrossReference.Error

set_option autoImplicit false

/-!
# Relations

The five relations between elements, their names, and the palette that colours them.
-/
namespace CrossReference

inductive Relation
  | reference
  | callCallee
  /-- From a parameter to the argument at its place. -/
  | callArgumentBinding
  | valueAssignment
  /-- From a function to what it returns. -/
  | returnArgument
deriving DecidableEq, Repr

namespace Relation

def all : List Relation :=
  [reference, callCallee, callArgumentBinding, valueAssignment, returnArgument]

def name : Relation → String
  | reference => "reference"
  | callCallee => "call-callee"
  | callArgumentBinding => "call-argument-binding"
  | valueAssignment => "value-assignment"
  | returnArgument => "return-argument"

def defaultColor : Relation → String
  | reference => "red"
  | callCallee => "purple"
  | callArgumentBinding => "orange"
  | valueAssignment => "green"
  | returnArgument => "pink"

def ofName? (name : String) : Option Relation := all.find? fun r => r.name = name

/-- Names are told apart neither by case nor by the kind of dash. No name holds a letter that has
    another case outside ASCII, so ASCII letters are enough. -/
def foldName (name : String) : String :=
  String.ofList (name.toList.map fun c => if c = '_' then '-' else c.toLower)

def parse (name : String) : Except Error Relation :=
  match foldName name with
  | "reference" | "ref" => .ok reference
  | "call-callee" | "callee" | "call" => .ok callCallee
  | "call-argument-binding" | "call-args" | "argument" | "arg" => .ok callArgumentBinding
  | "value-assignment" | "assignment" | "assign" => .ok valueAssignment
  | "return-argument" | "return" => .ok returnArgument
  | _ => .error (.settings (.unknownRelation name))

end Relation

structure Palette where
  reference : String := Relation.reference.defaultColor
  callCallee : String := Relation.callCallee.defaultColor
  callArgumentBinding : String := Relation.callArgumentBinding.defaultColor
  valueAssignment : String := Relation.valueAssignment.defaultColor
  returnArgument : String := Relation.returnArgument.defaultColor
deriving DecidableEq, Repr

def Palette.color (p : Palette) : Relation → String
  | .reference => p.reference
  | .callCallee => p.callCallee
  | .callArgumentBinding => p.callArgumentBinding
  | .valueAssignment => p.valueAssignment
  | .returnArgument => p.returnArgument

end CrossReference
