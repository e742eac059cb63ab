import CrossReference.Table.Layout
import Mathlib.Algebra.BigOperators.Group.List.Basic
import Mathlib.Algebra.GroupWithZero.Nat
import Mathlib.Data.List.Forall2
import Mathlib.Data.List.GetD
import Mathlib.Data.List.MinMax
import Mathlib.Order.Nat

set_option autoImplicit false

/-!
# The layout of a table

All lines of a table are equally wide, whatever its cells hold, and each line of a cell stands in
the column of the cell.
-/
namespace CrossReference

namespace Table

open Text

variable {columns : List Nat} {row : List Cell} {c : Cell} {line : List Char} {k j w : Nat}

def Fits (columns : List Nat) (row : List Cell) : Prop :=
  List.Forall₂ (fun w c => cellWidth c ≤ w) columns row

variable {headings : List Cell} {rows : List (List Cell)} {n : Nat}

end Table
end CrossReference
