set_option autoImplicit false

/-!
# Parts and places of a text, by byte offset

A source text is addressed by offsets into its UTF-8 form. A part exists only where both ends fall
between two characters.
-/
namespace CrossReference.Text

/-- The part of a text between two byte offsets, unless an end is out of range, out of order or
    inside a character. -/
def slice? (text : String) (start stop : Nat) : Option String :=
  if start ≤ stop ∧ (String.Pos.Raw.mk start).isValid text ∧
      (String.Pos.Raw.mk stop).isValid text then
    some (String.Pos.Raw.extract text ⟨start⟩ ⟨stop⟩)
  else none

/-- A place as people count it: both numbers start at one, and the column counts bytes. -/
structure Place where
  line : Nat
  column : Nat
deriving DecidableEq, Repr

def Place.next (p : Place) (byte : UInt8) : Place :=
  if byte = 10 then ⟨p.line + 1, 1⟩ else ⟨p.line, p.column + 1⟩

def placeAt (text : String) (offset : Nat) : Place :=
  (text.toUTF8.extract 0 offset).data.foldl Place.next ⟨1, 1⟩

end CrossReference.Text
