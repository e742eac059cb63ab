import CrossReference.Proofs.Lowering.BindingTable
import CrossReference.Proofs.Lowering.Nesting

set_option autoImplicit false

/-!
# Names that are declared again

Of all sites that declare a name in a scope, the one that lowering leaves first is kept:
`lookupLocal?_lower_first`. That is not always the one that starts first, since a site is left after
all that lies in it: a `var` in the body of a function takes its name away from a parameter.
-/
namespace CrossReference

/-- A site is left before those that it lies in and before those that start where it has ended. -/
def Site.LeftBefore (A B : Site) : Prop := A ∈ B.sites ∨ A.index + A.sites.length ≤ B.index

theorem Site.ends_of_mem {A S : Site} (h : A ∈ S.sites) :
    A.index + A.sites.length ≤ S.index + S.sites.length := by
  have some : 0 < A.sites.length := List.length_pos_of_mem A.mem_sites_self
  have last : A.index + (A.sites.length - 1) ∈ A.sites.map (·.index) := by
    rw [A.map_index_sites, List.mem_range'_1]
    omega
  obtain ⟨X, hX, number⟩ := List.mem_map.mp last
  have inside := (Site.index_mem (Site.mem_trans h hX)).2
  omega

mutual
theorem ParseNode.leaveOrder_leftBefore (slot : Slot) : (n : ParseNode) →
    (n.leaveOrder slot).Pairwise Site.LeftBefore
  | .mk head fields children => by
    let S : Site := ⟨slot, .mk head fields children⟩
    rw [ParseNode.leaveOrder_eq, List.pairwise_append]
    refine ⟨ParseNode.leaveOrderIn_leftBefore _ children, List.pairwise_singleton _ _, ?_⟩
    intro A hA B hB
    have below := (ParseNode.perm_leaveOrderIn S.below children).mem_iff.mp hA
    rw [List.mem_singleton.mp hB]
    exact .inl (by rw [Site.sites, ParseNode.sites_eq]; exact List.mem_cons_of_mem _ below)

theorem ParseNode.leaveOrderIn_leftBefore (slot : Slot) : (list : List ParseNode) →
    (leaveOrderIn slot list).Pairwise Site.LeftBefore
  | [] => by
    rw [leaveOrderIn]
    exact List.Pairwise.nil
  | n :: rest => by
    rw [leaveOrderIn]
    split
    · refine List.pairwise_append.mpr ⟨ParseNode.leaveOrder_leftBefore slot n,
        ParseNode.leaveOrderIn_leftBefore _ rest, ?_⟩
      intro A hA B hB
      have ends := Site.ends_of_mem (S := ⟨slot, n⟩)
        ((ParseNode.perm_leaveOrder slot n).mem_iff.mp hA)
      have starts := (ParseNode.index_mem_sitesIn
        ((ParseNode.perm_leaveOrderIn _ rest).mem_iff.mp hB)).1
      exact .inr (Nat.le_trans ends starts)
    · exact ParseNode.leaveOrderIn_leftBefore slot rest
end

def Binder.Binds (b : Binder) (source : String) (s : ScopeId) (name : String) : Prop :=
  b.scope = s ∧ ∃ X, b.pattern.Names X ∧ X.text source = name

namespace Lowering

variable {root : ParseNode}

theorem exists_of_find?_flatMap {α β : Type} {f : α → List β} {p : β → Bool} {list : List α} {b : β}
    (h : (list.flatMap f).find? p = some b) : ∃ before a after, list = before ++ a :: after ∧
      b ∈ f a ∧ p b ∧ ∀ x ∈ before, ∀ c ∈ f x, ¬p c := by
  induction list with
  | nil => cases h
  | cons first rest ih =>
    rw [List.flatMap_cons, List.find?_append] at h
    rcases Option.or_eq_some_iff.mp h with here | ⟨none, later⟩
    · exact ⟨[], first, rest, rfl, List.mem_of_find?_eq_some here, List.find?_some here,
        fun x hx => nomatch hx⟩
    · obtain ⟨before, a, after, rfl, hb, found, absent⟩ := ih later
      refine ⟨first :: before, a, after, rfl, hb, found, fun x hx c hc => ?_⟩
      rcases List.mem_cons.mp hx with rfl | hx
      · exact List.find?_eq_none.mp none c hc
      · exact absent x hx c hc

theorem binds_iff_names {source : String} {b : Binder} {s : ScopeId} {name : String} :
    decide (b.scope = s ∧ name ∈ b.pattern.names.map (Site.text source)) ↔
      b.Binds source s name := by
  simp [Binder.Binds, List.mem_map, Site.mem_names_iff]

/-- A scope keeps, under each name, the declaration of the site that is left first. -/
theorem lookupLocal?_lower_first (source : String) (program : root.kind = "program")
    (wf : root.WellFormed) {s : ScopeId} {name : String} {kept : ElementIndex}
    (found : (lower source root).scopes.lookupLocal? s name = some kept) :
    ∃ S ∈ root.allSites, ∃ b, S.Declares b ∧ b.Binds source s name ∧ b.declaring = kept ∧
      ∀ T ∈ root.allSites, ∀ c, T.Declares c → c.Binds source s name → S.LeftBefore T := by
  rw [lower_table source wf, declared] at found
  obtain ⟨b, first, declaring⟩ := Option.map_eq_some_iff.mp found
  obtain ⟨before, S, after, order, hb, binds, absent⟩ := exists_of_find?_flatMap first
  have left (T : Site) (hT : T ∈ root.allSites) (c : Binder) (declares : T.Declares c) :
      T ∈ before ++ S :: after := by
    rw [← order, ParseNode.mem_leaveOrder_iff]
    refine ⟨hT, fun isRoot => declares.construct_ne ?_⟩
    rw [isRoot, show root.rootSite.node.kind = "program" from program]
    rfl
  have hS : S ∈ root.allSites := (ParseNode.mem_leaveOrder_iff.mp (order ▸ by simp)).1
  refine ⟨S, hS, b, Site.mem_binders_iff.mp hb, binds_iff_names.mp binds, declaring, ?_⟩
  intro T hT c declares binds
  rcases List.mem_append.mp (left T hT c declares) with early | here
  · exact absurd (binds_iff_names.mpr binds) (absent T early c (Site.mem_binders_iff.mpr declares))
  · rcases List.mem_cons.mp here with same | late
    · exact .inl (same ▸ S.mem_sites_self)
    · have ordered := ParseNode.leaveOrderIn_leftBefore root.rootSite.below root.children
      rw [order, List.pairwise_append, List.pairwise_cons] at ordered
      exact ordered.2.1.1 T late

def redeclaredSource : String := "function f(a) \x7b var a = 2; return a \x7d"

def redeclaredParameter : ParseNode :=
  let head (number : Nat) (kind : String) (start stop : UInt64) (isNamed : Bool) : NodeHead :=
    ⟨number, kind, ⟨start, stop⟩, isNamed, false, false, false, false⟩
  let token (number : Nat) (kind : String) (start stop : UInt64) : ParseNode :=
    .mk (head number kind start stop false) [] []
  let leaf (number : Nat) (kind : String) (start stop : UInt64) : ParseNode :=
    .mk (head number kind start stop true) [] []
  let name := leaf 3 "identifier" 9 10
  let parameters : ParseNode := .mk (head 4 "formal_parameters" 10 13 true) []
    [token 5 "(" 10 11, leaf 6 "identifier" 11 12, token 7 ")" 12 13]
  let target := leaf 13 "identifier" 20 21
  let value := leaf 15 "number" 24 25
  let declarator : ParseNode := .mk (head 12 "variable_declarator" 20 25 true)
    [(.name, target), (.value, value)] [target, token 14 "=" 22 23, value]
  let declaration : ParseNode := .mk (head 10 "variable_declaration" 16 26 true) []
    [token 11 "var" 16 19, declarator, token 16 ";" 25 26]
  let result : ParseNode := .mk (head 17 "return_statement" 27 35 true) []
    [token 18 "return" 27 33, leaf 19 "identifier" 34 35]
  let body : ParseNode := .mk (head 8 "statement_block" 14 37 true) []
    [token 9 "\x7b" 14 15, declaration, result, token 20 "\x7d" 36 37]
  let function : ParseNode := .mk (head 1 "function_declaration" 0 37 true)
    [(.body, body), (.name, name), (.parameters, parameters)]
    [token 2 "function" 0 8, name, parameters, body]
  .mk (head 0 "program" 0 37 true) [] [function]

theorem redeclaredParameter_wellFormed : redeclaredParameter.WellFormed := by
  constructor
  · decide
  · simp [-Prod.forall, redeclaredParameter, ParseNode.nodes, ParseNode.nodesIn, ParseNode.fields,
      ParseNode.children]

theorem lookupLocal?_redeclaredParameter :
    (lower redeclaredSource redeclaredParameter).scopes.lookupLocal? 1 "a" = some 7 := by
  decide +kernel

theorem lookupLocal?_lower_first_redeclared :
    redeclaredParameter.kind = "program" ∧ redeclaredParameter.WellFormed ∧
      (lower redeclaredSource redeclaredParameter).scopes.lookupLocal? 1 "a" = some 7 ∧
      ∃ S ∈ redeclaredParameter.allSites, ∃ b, S.Declares b ∧ b.declaring = 7 ∧
        S.LeftBefore redeclaredParameter.allSites[1] := by
  refine ⟨rfl, redeclaredParameter_wellFormed, lookupLocal?_redeclaredParameter, ?_⟩
  obtain ⟨S, hS, b, declares, _, declaring, first⟩ := lookupLocal?_lower_first redeclaredSource rfl
    redeclaredParameter_wellFormed lookupLocal?_redeclaredParameter
  have parameter : redeclaredParameter.allSites[1].Declares
      ⟨1, redeclaredParameter.allSites[4], 4⟩ := .parameter (by decide) List.mem_cons_self
  have text : redeclaredParameter.allSites[4].text redeclaredSource = "a" := by decide +kernel
  exact ⟨S, hS, b, declares, declaring, first _ (List.getElem_mem _) _ parameter
    ⟨rfl, _, .name List.mem_cons_self, text⟩⟩

theorem binders_redeclaredParameter :
    (ParseNode.leaveOrderIn redeclaredParameter.rootSite.below redeclaredParameter.children).flatMap
      Site.binders = [⟨1, redeclaredParameter.allSites[8], 7⟩,
        ⟨1, redeclaredParameter.allSites[4], 4⟩, ⟨0, redeclaredParameter.allSites[2], 1⟩] := rfl

/-- Only a parameter and a `var` bind the name in the function's scope, which keeps the `var`,
    though the parameter starts first. -/
theorem var_kept_before_parameter : ∃ F ∈ redeclaredParameter.allSites, ∃ P ∈ F.parameters,
    ∃ D ∈ redeclaredParameter.allSites, F.node.kind ∈ functionKinds ∧
      (⟨F.nextScope, P, P.index⟩ : Binder).Binds redeclaredSource F.nextScope "a" ∧
      D.node.kind = "variable_declarator" ∧
      (∃ b, D.Declares b ∧ b.declaring = D.index ∧ b.Binds redeclaredSource F.nextScope "a") ∧
      (∀ S ∈ redeclaredParameter.allSites, ∀ c, S.Declares c →
        c.Binds redeclaredSource F.nextScope "a" → c.declaring = P.index ∨ c.declaring = D.index) ∧
      P.node.span.start < D.node.span.start ∧ D.index ≠ P.index ∧
      (lower redeclaredSource redeclaredParameter).scopes.lookupLocal? F.nextScope "a" =
        some D.index := by
  have parameter : redeclaredParameter.allSites[4] ∈ redeclaredParameter.allSites[1].parameters :=
    List.mem_cons_self
  have parameterText : redeclaredParameter.allSites[4].text redeclaredSource = "a" := by
    decide +kernel
  have targetText : redeclaredParameter.allSites[8].text redeclaredSource = "a" := by decide +kernel
  have declares : redeclaredParameter.allSites[7].Declares
      ⟨1, redeclaredParameter.allSites[8], 7⟩ := .varDeclarator rfl rfl rfl
  refine ⟨_, List.getElem_mem _, _, parameter, _, List.getElem_mem _, by decide,
    ⟨rfl, _, .name List.mem_cons_self, parameterText⟩, rfl,
    ⟨_, declares, rfl, rfl, _, .name List.mem_cons_self, targetText⟩, ?_, by decide, by decide,
    lookupLocal?_redeclaredParameter⟩
  intro S hS c declares binds
  have known := (mem_leaveOrder_binders rfl).mpr ⟨S, hS, declares⟩
  rw [binders_redeclaredParameter] at known
  rcases List.mem_cons.mp known with rfl | known
  · exact .inr rfl
  · rcases List.mem_cons.mp known with rfl | known
    · exact .inl rfl
    · -- the name of the function is bound around it
      rw [List.mem_singleton.mp known] at binds
      exact absurd binds.1 (by decide)

end Lowering
end CrossReference
