import CrossReference.Parse.Node
import Mathlib.Data.List.Lex
import Mathlib.Data.List.Basic

set_option autoImplicit false

/-!
# Paths in a parse tree

A path leads from the root downwards through children that become elements. It tells where a node
stands, also where equal nodes stand in several places. In lexicographic order a path comes after
those to the nodes around and to all that lies left of it, so sorted paths are a pre-order.
-/
namespace CrossReference.ParseNode

def at? (n : ParseNode) : List Nat → Option ParseNode
  | [] => some n
  | k :: path => n.elementChildren[k]?.bind fun c => c.at? path

mutual
def paths : ParseNode → List (List Nat)
  | mk _ _ children => [] :: pathsIn 0 children

/-- The paths into the nodes of a list, if the first that becomes an element has the number `k`. -/
def pathsIn (k : Nat) : List ParseNode → List (List Nat)
  | [] => []
  | n :: rest =>
    if n.isElement then n.paths.map (k :: ·) ++ pathsIn (k + 1) rest else pathsIn k rest
end

theorem pathsIn_eq (k : Nat) (list : List ParseNode) : pathsIn k list =
    ((list.filter isElement).zipIdx k).flatMap fun (c, k) => c.paths.map (k :: ·) := by
  induction list generalizing k with
  | nil => rw [pathsIn]; rfl
  | cons n rest ih =>
    rw [pathsIn, List.filter_cons]
    split
    · rw [ih, List.zipIdx_cons, List.flatMap_cons]
    · exact ih k

theorem paths_eq (n : ParseNode) : n.paths =
    [] :: n.elementChildren.zipIdx.flatMap fun (c, k) => c.paths.map (k :: ·) := by
  cases n
  rw [paths, pathsIn_eq]
  rfl

theorem mem_paths_iff {n : ParseNode} {path : List Nat} :
    path ∈ n.paths ↔ (n.at? path).isSome := by
  induction path generalizing n with
  | nil =>
    rw [paths_eq, at?]
    exact iff_of_true List.mem_cons_self rfl
  | cons k path ih =>
    rw [paths_eq, at?]
    cases child : n.elementChildren[k]? with
    | none => simp [List.mem_zipIdx_iff_getElem?, child]
    | some c => simp [List.mem_zipIdx_iff_getElem?, child, ih]

theorem exists_of_mem_pathsIn {k : Nat} {list : List ParseNode} {path : List Nat}
    (h : path ∈ pathsIn k list) : ∃ j rest, path = j :: rest ∧ k ≤ j := by
  rw [pathsIn_eq] at h
  obtain ⟨⟨c, j⟩, hc, inside⟩ := List.mem_flatMap.mp h
  obtain ⟨rest, _, rfl⟩ := List.mem_map.mp inside
  exact ⟨j, rest, rfl, List.le_snd_of_mem_zipIdx hc⟩

mutual
theorem pairwise_paths : (n : ParseNode) → n.paths.Pairwise (· < ·)
  | mk head fields children => by
    rw [paths, List.pairwise_cons]
    refine ⟨fun path h => ?_, pairwise_pathsIn 0 children⟩
    obtain ⟨j, rest, rfl, _⟩ := exists_of_mem_pathsIn h
    exact List.nil_lt_cons j rest

theorem pairwise_pathsIn (k : Nat) : (list : List ParseNode) → (pathsIn k list).Pairwise (· < ·)
  | [] => by
    rw [pathsIn]
    exact List.Pairwise.nil
  | n :: rest => by
    rw [pathsIn]
    split
    · refine List.pairwise_append.mpr ⟨?_, pairwise_pathsIn (k + 1) rest, ?_⟩
      · exact (pairwise_paths n).map _ fun a b less => List.cons_lt_cons_iff.mpr (.inr ⟨rfl, less⟩)
      · intro a ha b hb
        obtain ⟨path, _, rfl⟩ := List.mem_map.mp ha
        obtain ⟨j, later, rfl, less⟩ := exists_of_mem_pathsIn hb
        exact List.cons_lt_cons_iff.mpr (.inl less)
    · exact pairwise_pathsIn k rest
end

end CrossReference.ParseNode
