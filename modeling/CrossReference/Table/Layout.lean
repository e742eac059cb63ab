import CrossReference.Text.Split
import CrossReference.Text.Width

set_option autoImplicit false

/-!
# Table layout

A table of texts in a frame with round corners: a row of headings, a rule, and the rows without
rules between them. A cell may have several lines; the cells beside it are filled up with blank
ones. Every column is as wide as its widest line, with a blank on both sides.
-/
namespace CrossReference

namespace Table

/-- A cell is the list of its lines, which a line feed parts. -/
abbrev Cell := List (List Char)

def cell (text : String) : Cell := Text.parts '\n' text.toList

def cellWidth (c : Cell) : Nat := (c.map Text.width).foldr max 0

def rowHeight (row : List Cell) : Nat := (row.map List.length).foldr max 0

def columnWidths (columns : Nat) (rows : List (List Cell)) : List Nat :=
  (List.range columns).map fun j =>
    (rows.map fun row => cellWidth (row.getD j [])).foldr max 0

def padTo (width : Nat) (line : List Char) : List Char :=
  line ++ List.replicate (width - Text.width line) ' '

/-- A line of the frame: `left`, a stretch for each column with `joint` between, and `right`. -/
def rule (left joint right : Char) (widths : List Nat) : List Char :=
  left :: ((widths.map fun w => List.replicate (w + 2) '─').intersperse [joint]).flatten ++ [right]

def rowLine (widths : List Nat) (row : List Cell) (k : Nat) : List Char :=
  '│' :: ((widths.zip row).map fun (w, c) => ' ' :: padTo w (c.getD k []) ++ [' ', '│']).flatten

def rowLines (widths : List Nat) (row : List Cell) : List (List Char) :=
  (List.range (rowHeight row)).map (rowLine widths row)

def layout (headings : List Cell) (rows : List (List Cell)) : List (List Char) :=
  let widths := columnWidths headings.length (headings :: rows)
  rule '╭' '┬' '╮' widths :: rowLines widths headings
    ++ rule '├' '┼' '┤' widths :: rows.flatMap (rowLines widths)
    ++ [rule '╰' '┴' '╯' widths]

def render (headings : List String) (rows : List (List String)) : String :=
  String.ofList
    ((layout (headings.map cell) (rows.map fun row => row.map cell)).intersperse ['\n']).flatten

end Table
end CrossReference
