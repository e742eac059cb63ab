import CrossReference.Text.Blank

set_option autoImplicit false

/-!
# Excerpts

An excerpt shows a piece of source on one line: words apart by single spaces, and a text that is too
long cut off with an ellipsis in the last place.
-/
namespace CrossReference.Text

/-- A text of at most `width` characters is shown whole, any other loses its end to an ellipsis. -/
def excerpt (text : String) (width : Nat) : String :=
  let shown := collapse text.toList
  if shown.length ≤ width then String.ofList shown
  else String.ofList (shown.take (width - 1) ++ ['…'])

end CrossReference.Text
