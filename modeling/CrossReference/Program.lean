import CrossReference.Error
import CrossReference.Lowering.WorkStack

set_option autoImplicit false

/-!
# Programs

A program is a JavaScript source with its elements and scopes. A strict reading refuses a source
whose parse tree holds a fault; a lenient one takes the tree as the parser recovered it.
-/
namespace CrossReference

structure Program where
  source : String
  tree : ElementTree
  scopes : ScopeTree

namespace Program

def ofParse (source : String) (root : ParseNode) : Program :=
  let lowered := Lowering.lower source root
  ⟨source, lowered.tree, lowered.scopes⟩

def read (strict : Bool) (source : String) (root : ParseNode) : Except Error Program :=
  match root.fault? source with
  | some fault => if strict then .error (.parse fault) else .ok (ofParse source root)
  | none => .ok (ofParse source root)

end Program
end CrossReference
