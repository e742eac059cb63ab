import CrossReference.Span
import CrossReference.Text.Decimal
import CrossReference.Text.Quoted
import CrossReference.Text.Split

set_option autoImplicit false

/-!
# Element identities

An element is identified by its kind and its position. The text of an identity is `kind-start:stop`
for an element of the source and `kind-#n` for one without a span. Kinds may hold any character, but
a position holds no dash, so the last dash parts the two.
-/
namespace CrossReference

/-- Where an element stands: at a span of the source, or nowhere, told apart by an ordinal. -/
inductive Position
  | at (span : Span)
  | synthetic (ordinal : UInt32)
deriving DecidableEq, Repr

structure ElementId where
  kind : String
  position : Position
deriving DecidableEq, Repr

inductive IdFault
  | missingSeparator
  | emptyKind
  | badOrdinal
  | notASpan
  | badStart
  | badStop
  | stopBeforeStart
  | withoutSpan
deriving DecidableEq, Repr

def IdFault.describe (fault : IdFault) (id : String) : String :=
  let quotedId := Text.quoted id
  match fault with
  | .missingSeparator => "missing '-' separator in " ++ quotedId
  | .emptyKind => "empty kind in " ++ quotedId
  | .badOrdinal => "invalid synthetic ordinal in " ++ quotedId
  | .notASpan => "span must be start:end in " ++ quotedId
  | .badStart => "invalid start offset in " ++ quotedId
  | .badStop => "invalid end offset in " ++ quotedId
  | .stopBeforeStart => "end before start in " ++ quotedId
  | .withoutSpan => quotedId ++ " is synthetic and has no span"

namespace Position

def write : Position → List Char
  | .at span => Text.Decimal.write span.start.toNat ++ ':' :: Text.Decimal.write span.stop.toNat
  | .synthetic ordinal => '#' :: Text.Decimal.write ordinal.toNat

def span? : Position → Option Span
  | .at span => some span
  | .synthetic _ => none

/-- Offsets fit in 64 bits and ordinals in 32. The start is judged before the end. -/
def read : List Char → Except IdFault Position
  | '#' :: digits =>
    match Text.Decimal.readBelow? UInt32.size digits with
    | some n => .ok (.synthetic (UInt32.ofNat n))
    | none => .error .badOrdinal
  | cs =>
    match Text.splitFirst? ':' cs with
    | none => .error .notASpan
    | some (first, second) =>
      match Text.Decimal.readBelow? UInt64.size first,
        Text.Decimal.readBelow? UInt64.size second with
      | none, _ => .error .badStart
      | some _, none => .error .badStop
      | some start, some stop =>
        if stop < start then .error .stopBeforeStart
        else .ok (.at ⟨UInt64.ofNat start, UInt64.ofNat stop⟩)

end Position

namespace ElementId

def span? (id : ElementId) : Option Span := id.position.span?

def text (id : ElementId) : String :=
  id.kind ++ String.ofList ('-' :: id.position.write)

def parse (text : String) : Except IdFault ElementId :=
  match Text.splitLast? '-' text.toList with
  | none => .error .missingSeparator
  | some (kind, position) =>
    if kind = [] then .error .emptyKind
    else (Position.read position).map fun p => ⟨String.ofList kind, p⟩

def spanOf (text : String) : Except IdFault Span :=
  match parse text with
  | .error fault => .error fault
  | .ok id =>
    match id.span? with
    | some span => .ok span
    | none => .error .withoutSpan

end ElementId
end CrossReference
