import CrossReference.Element.Tree
import CrossReference.Lowering.Construct

set_option autoImplicit false

/-!
# Names bound by a pattern

A pattern may take a value apart: it binds the names it consists of, from left to right. Default
values and computed keys are no part of it.
-/
namespace CrossReference

def Element.patternParts (e : Element) : List ElementIndex :=
  match PatternForm.ofKind e.kind with
  | .firstChild => e.children.toList.take 1
  | .lastChild => (e.children.back?).toList
  | .allChildren => e.children.toList
  | .name | .nothing => []

def Element.isPatternName (e : Element) : Bool := PatternForm.ofKind e.kind = .name

namespace ElementTree

/-- The names bound by the patterns on a stack. One element leaves the stack at each step, so there
    are at most as many steps as elements. -/
def boundFrom (t : ElementTree) : Nat → List ElementIndex → List ElementIndex
  | 0, _ => []
  | _, [] => []
  | steps + 1, i :: stack =>
    match t.element? i with
    | none => boundFrom t steps stack
    | some e =>
      if e.isPatternName then i :: boundFrom t steps stack
      else boundFrom t steps (e.patternParts ++ stack)

def boundElements (t : ElementTree) (pattern : ElementIndex) : List ElementIndex :=
  t.boundFrom t.size [pattern]

def markPattern (t : ElementTree) (pattern : ElementIndex) (role : Role) :
    List String × ElementTree :=
  let bound := t.boundElements pattern
  (bound.filterMap fun i => (t.element? i).bind Element.name?,
    bound.foldl (fun t i => t.setRole i role) t)

end ElementTree
end CrossReference
