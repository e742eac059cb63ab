import CrossReference.Proofs.Lowering.Elements
import CrossReference.Proofs.Lowering.Fields
import CrossReference.Proofs.Parse.Paths

set_option autoImplicit false

/-!
# A lowered tree is the parse tree in pre-order

Each path to a node stands for one element, whose number is the place of the path among all paths.
The paths of the nodes are followed through the sites, which carry the numbers.
-/
namespace CrossReference

namespace ParseNode

/-- How many nodes come before the one that a path leads to. -/
def rank (root : ParseNode) (path : List Nat) : Nat := root.paths.idxOf path

theorem rank_of_getElem? {root : ParseNode} {path : List Nat} {i : Nat}
    (h : root.paths[i]? = some path) : root.rank path = i := by
  obtain ⟨short, found⟩ := List.getElem?_eq_some_iff.mp h
  have nodup : root.paths.Nodup := (pairwise_paths root).imp fun less => ne_of_lt less
  rw [rank, ← found]
  exact nodup.idxOf_getElem i short

/-- The elements of a tree are the nodes that paths lead to, in the order of the paths. -/
structure PreorderImage (root : ParseNode) (t : ElementTree) : Prop where
  reached : ∀ path, path ∈ root.paths ↔ (root.at? path).isSome
  inOrder : root.paths.Pairwise (· < ·)
  size_eq : t.size = root.paths.length
  element : ∀ (i : Nat) (path : List Nat), root.paths[i]? = some path →
    ∃ n e, root.at? path = some n ∧ t.element? i = some e ∧
      e.kind = n.kind ∧ e.position = .at n.span ∧
      e.parent = (if path = [] then none else some (root.rank path.dropLast)) ∧
      e.children.toList =
        (List.range n.elementChildren.length).map fun k => root.rank (path ++ [k])
  walk_eq : t.walk = List.range t.size

end ParseNode

namespace Site

/-- The site that a path leads to from another one. -/
def at? (S : Site) : List Nat → Option Site
  | [] => some S
  | k :: path => S.children[k]?.bind fun C => C.at? path

theorem at?_append (S : Site) (path : List Nat) (k : Nat) :
    S.at? (path ++ [k]) = (S.at? path).bind fun Q => Q.children[k]? := by
  induction path generalizing S with
  | nil =>
    rw [List.nil_append, at?, at?, Option.bind_some]
    cases S.children[k]? <;> rfl
  | cons j path ih =>
    rw [List.cons_append, at?, at?, Option.bind_assoc]
    exact congrArg _ (funext fun C => ih C)

theorem map_node_at? (S : Site) (path : List Nat) :
    (S.at? path).map (·.node) = S.node.at? path := by
  induction path generalizing S with
  | nil => rfl
  | cons k path ih =>
    rw [at?, ParseNode.at?, ← S.map_node_children, List.getElem?_map]
    cases S.children[k]? with
    | none => rfl
    | some C => exact ih C

theorem at?_node {S X : Site} {path : List Nat} (h : S.at? path = some X) :
    S.node.at? path = some X.node := by
  rw [← S.map_node_at? path, h]
  rfl

theorem map_at?_paths (S : Site) : S.node.paths.map S.at? = S.sites.map some := by
  induction S using children_induction with
  | step S ih =>
    -- a path that begins with `k` goes on inside the child with that number
    have below (C : Site) (k : Nat) (h : (C, k) ∈ S.children.zipIdx) :
        (C.node.paths.map (k :: ·)).map S.at? = C.sites.map some := by
      have child : S.children[k]? = some C := List.mem_zipIdx_iff_getElem?.mp h
      rw [← ih C (List.mem_of_getElem? child), List.map_map]
      apply List.map_congr_left
      intro path _
      rw [Function.comp_apply, at?, child, Option.bind_some]
    have children : S.children.flatMap sites = S.children.zipIdx.flatMap fun (C, _) => C.sites := by
      rw [← List.flatMap_map Prod.fst, List.zipIdx_map_fst]
    rw [S.sites_eq, ParseNode.paths_eq, List.map_cons, List.map_cons, children, List.map_flatMap,
      List.map_flatMap, ← S.map_node_children, List.zipIdx_map, List.flatMap_map]
    congr 1
    apply List.flatMap_congr
    rintro ⟨C, k⟩ h
    exact below C k h

end Site

namespace ParseNode

variable {root : ParseNode} {path : List Nat} {i : Nat} {X : Site}

theorem index_of_getElem? (h : root.allSites[i]? = some X) : X.index = i := by
  have number : (root.allSites.map (·.index))[i]? = some X.index := by
    rw [List.getElem?_map, h]
    rfl
  rw [map_index_allSites, List.getElem?_range (List.getElem?_eq_some_iff.mp h).1] at number
  exact (Option.some.inj number).symm

/-- The paths and the sites that they lead to stand in the same order. -/
theorem exists_site_of_getElem? (h : root.paths[i]? = some path) :
    ∃ X ∈ root.allSites, root.rootSite.at? path = some X ∧ X.index = i := by
  have aligned : (root.allSites.map some)[i]? = some (root.rootSite.at? path) := by
    rw [allSites, ← Site.map_at?_paths, List.getElem?_map]
    exact congrArg (Option.map _) h
  rw [List.getElem?_map] at aligned
  obtain ⟨X, found, reached⟩ := Option.map_eq_some_iff.mp aligned
  exact ⟨X, List.mem_of_getElem? found, reached.symm, index_of_getElem? found⟩

theorem rank_of_at? (h : root.rootSite.at? path = some X) : root.rank path = X.index := by
  have inside : path ∈ root.paths := by
    rw [mem_paths_iff]
    exact Option.isSome_of_eq_some (Site.at?_node h)
  obtain ⟨i, found⟩ := List.mem_iff_getElem?.mp inside
  obtain ⟨Y, _, reached, index⟩ := exists_site_of_getElem? found
  have same : X = Y := Option.some.inj (h.symm.trans reached)
  rw [rank_of_getElem? found, same, index]

theorem parent_of_at? (h : root.rootSite.at? path = some X) : X.parent.map Prod.fst =
    if path = [] then none else some (root.rank path.dropLast) := by
  rcases List.eq_nil_or_concat' path with rfl | ⟨outer, k, rfl⟩
  · rw [if_pos rfl, ← Option.some.inj h]
    rfl
  · rw [Site.at?_append] at h
    obtain ⟨Q, reached, child⟩ := Option.bind_eq_some_iff.mp h
    rw [if_neg (List.concat_ne_nil k outer), List.dropLast_concat, rank_of_at? reached,
      Site.parent_of_mem_children (List.mem_of_getElem? child)]
    rfl

theorem children_of_at? (h : root.rootSite.at? path = some X) : X.children.map (·.index) =
    (List.range X.node.elementChildren.length).map fun k => root.rank (path ++ [k]) := by
  have length : X.node.elementChildren.length = X.children.length := by
    rw [← X.map_node_children, List.length_map]
  apply List.ext_getElem
  · rw [List.length_map, List.length_map, List.length_range, length]
  · intro k inside _
    rw [List.length_map] at inside
    have child : root.rootSite.at? (path ++ [k]) = some X.children[k] := by
      rw [Site.at?_append, h, Option.bind_some, List.getElem?_eq_getElem inside]
    rw [List.getElem_map, List.getElem_map, List.getElem_range, rank_of_at? child]

end ParseNode

theorem Lowering.lower_preorderImage (source : String) (root : ParseNode) :
    root.PreorderImage (lower source root).tree where
  reached _ := ParseNode.mem_paths_iff
  inOrder := ParseNode.pairwise_paths root
  size_eq := by
    have same := congrArg List.length root.rootSite.map_at?_paths
    rw [List.length_map, List.length_map] at same
    rw [(lower_records source root).length]
    exact same.symm
  element i path h := by
    obtain ⟨X, hX, reached, rfl⟩ := ParseNode.exists_site_of_getElem? h
    obtain ⟨e, found, outline⟩ := element_lower source hX
    refine ⟨X.node, e, Site.at?_node reached, found, congrArg (·.kind) outline,
      congrArg (·.position) outline, ?_, ?_⟩
    · rw [← ParseNode.parent_of_at? reached]
      exact congrArg (·.parent) outline
    · rw [← ParseNode.children_of_at? reached, children_lower hX found]
  walk_eq := walk_lower source root

end CrossReference
