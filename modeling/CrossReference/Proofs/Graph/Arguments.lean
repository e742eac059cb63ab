import CrossReference.Proofs.Graph.Building
import Mathlib.Data.List.TakeWhile

set_option autoImplicit false

/-!
# Arguments by position

A call joins parameters to arguments place by place, up to the first spread argument. Arguments
beyond the last parameter go to it if it is a rest parameter, and to none otherwise: `visit?_call`.
-/
namespace CrossReference

namespace ElementTree

variable (t : ElementTree)

/-- The arguments before the first spread one, whose places are known. -/
def plainArguments (arguments : List Nat) : List Nat :=
  arguments.takeWhile fun argument => t.kindOf argument ≠ "spread_element"

/-- Whether the last parameter takes all arguments that are left. -/
def takesRest (parameters : List Nat) : Bool :=
  parameters.getLast?.any fun last => t.kindOf last = "rest_pattern"

/-- How many arguments of a call are bound. -/
def boundCount (parameters arguments : List Nat) : Nat :=
  if t.takesRest parameters then (t.plainArguments arguments).length
  else min (t.plainArguments arguments).length parameters.length

/-- Edges that bind as many arguments as can be bound, from the front on: the argument at each place
    to the parameter at that place, or to the last one. -/
structure BindsByPosition (palette : Palette) (parameters arguments : List Nat)
    (bound : List GraphEdge) : Prop where
  length_eq : bound.length = t.boundCount parameters arguments
  edge_at : ∀ place < bound.length, ∃ parameter argument name,
    parameters[min place (parameters.length - 1)]? = some parameter ∧
    arguments[place]? = some argument ∧ t.bindingName? parameter = some name ∧
    bound[place]? = some ⟨t.idOf parameter, t.idOf argument, .callArgumentBinding,
      "call args: \"" ++ name.getD (t.kindOf parameter) ++ "\"",
      palette.color .callArgumentBinding⟩
  plain_before : ∀ place < bound.length, ∀ before ≤ place, ∀ argument,
    arguments[before]? = some argument → t.kindOf argument ≠ "spread_element"

variable {t} {parameters : List Nat} {place : Nat}

theorem takesRest_eq_true_iff : t.takesRest parameters = true ↔
    ∃ last, parameters.getLast? = some last ∧ t.kindOf last = "rest_pattern" := by
  rw [takesRest, Option.any_eq_true]
  simp only [decide_eq_true_eq]

theorem length_pos_of_takesRest (rest : t.takesRest parameters = true) : 0 < parameters.length := by
  obtain ⟨last, found, _⟩ := takesRest_eq_true_iff.mp rest
  exact List.length_pos_of_mem (List.mem_of_getLast? found)

theorem parameterAt?_eq (taken : place < parameters.length ∨ t.takesRest parameters = true) :
    t.parameterAt? parameters place = parameters[min place (parameters.length - 1)]? := by
  rw [parameterAt?]
  rcases Nat.lt_or_ge place parameters.length with here | beyond
  · rw [Nat.min_eq_left (by omega), List.getElem?_eq_getElem here, Option.some_or]
  · have rest := taken.resolve_left (Nat.not_lt.mpr beyond)
    obtain ⟨last, found, kind⟩ := takesRest_eq_true_iff.mp rest
    rw [List.getElem?_eq_none beyond, Option.none_or, found, Option.filter_some,
      if_pos (decide_eq_true kind), Nat.min_eq_right (by omega), ← List.getLast?_eq_getElem?, found]

theorem parameterAt?_eq_none_of_le (beyond : parameters.length ≤ place)
    (last : t.takesRest parameters = false) : t.parameterAt? parameters place = none := by
  rw [parameterAt?, List.getElem?_eq_none beyond, Option.none_or, Option.filter_eq_none_iff]
  intro parameter found rest
  rw [← Bool.not_eq_true, takesRest_eq_true_iff] at last
  exact last ⟨parameter, found, of_decide_eq_true rest⟩

theorem exists_parameter (taken : place < parameters.length ∨ t.takesRest parameters = true) :
    ∃ parameter, parameters[min place (parameters.length - 1)]? = some parameter := by
  have nonempty : 0 < parameters.length :=
    taken.elim (Nat.lt_of_le_of_lt (Nat.zero_le _)) length_pos_of_takesRest
  exact ⟨_, List.getElem?_eq_getElem (by omega)⟩

theorem length_bindingLinks (t : ElementTree) (parameters : List Nat) (place : Nat)
    (arguments : List Nat) : (t.bindingLinks parameters place arguments).length =
      if t.takesRest parameters then (t.plainArguments arguments).length
      else min (t.plainArguments arguments).length (parameters.length - place) := by
  induction arguments generalizing place with
  | nil => simp [bindingLinks, plainArguments]
  | cons argument later ih =>
    rw [GraphInput.bindingLinks_cons, plainArguments]
    by_cases spread : t.kindOf argument = "spread_element"
    · simp [spread]
    rw [if_neg spread, List.takeWhile_cons_of_pos (by simpa using spread), ← plainArguments,
      List.length_cons]
    cases rest : t.takesRest parameters with
    | true =>
      obtain ⟨parameter, found⟩ := exists_parameter (.inr rest : place < parameters.length ∨ _)
      rw [parameterAt?_eq (.inr rest), found]
      simp only [List.length_cons, ih, rest, if_true]
    | false =>
      rcases Nat.lt_or_ge place parameters.length with here | beyond
      · obtain ⟨parameter, found⟩ := exists_parameter (t := t) (.inl here)
        rw [parameterAt?_eq (.inl here), found]
        simp only [List.length_cons, ih, rest, Bool.false_eq_true, if_false]
        omega
      · rw [parameterAt?_eq_none_of_le beyond rest]
        simp only [Bool.false_eq_true, if_false, List.length_nil]
        omega

theorem getElem?_bindingLinks (t : ElementTree) (parameters : List Nat) (start : Nat)
    (arguments : List Nat) (place : Nat) : (t.bindingLinks parameters start arguments)[place]? =
      (t.plainArguments arguments)[place]?.bind fun argument =>
        (t.parameterAt? parameters (start + place)).map fun parameter =>
          t.bindingLink parameter argument := by
  induction arguments generalizing start place with
  | nil => simp [bindingLinks, plainArguments]
  | cons argument later ih =>
    rw [GraphInput.bindingLinks_cons, plainArguments]
    by_cases spread : t.kindOf argument = "spread_element"
    · simp [spread]
    rw [if_neg spread, List.takeWhile_cons_of_pos (by simpa using spread), ← plainArguments]
    cases reached : t.parameterAt? parameters start with
    -- an excess argument is followed by excess arguments only
    | none => simp [GraphInput.parameterAt?_eq_none reached (Nat.le_add_right start place)]
    | some parameter =>
      cases place with
      | zero => simp [reached]
      | succ place => simp [ih, Nat.add_right_comm, Nat.add_assoc]

theorem getElem?_plainArguments {arguments : List Nat}
    (plain : place < (t.plainArguments arguments).length) :
    (t.plainArguments arguments)[place]? = arguments[place]? := by
  obtain ⟨spread, split⟩ : t.plainArguments arguments <+: arguments := List.takeWhile_prefix _
  calc
    _ = (t.plainArguments arguments ++ spread)[place]? := (List.getElem?_append_left plain).symm
    _ = arguments[place]? := by rw [split]

theorem kindOf_plainArguments {arguments : List Nat} {argument : Nat}
    (plain : argument ∈ t.plainArguments arguments) : t.kindOf argument ≠ "spread_element" := by
  have kept := List.mem_takeWhile_imp plain
  exact of_decide_eq_true kept

end ElementTree

namespace GraphInput

variable {b : GraphInput} {parameters : List Nat}

theorem bindsByPosition (inside : ∀ p ∈ parameters, p < b.tree.size) (palette : Palette)
    (arguments : List Nat) : b.tree.BindsByPosition palette parameters arguments
      ((b.tree.bindingLinks parameters 0 arguments).map (b.tree.edge palette)) := by
  have length := b.tree.length_bindingLinks parameters 0 arguments
  have count : ((b.tree.bindingLinks parameters 0 arguments).map (b.tree.edge palette)).length =
      b.tree.boundCount parameters arguments := by
    rw [List.length_map, length, Nat.sub_zero, ElementTree.boundCount]
  have plain {place : Nat} (bound : place < b.tree.boundCount parameters arguments) :
      place < (b.tree.plainArguments arguments).length ∧
        (place < parameters.length ∨ b.tree.takesRest parameters = true) := by
    rw [ElementTree.boundCount] at bound
    split at bound
    · next rest => exact ⟨bound, .inr rest⟩
    · exact ⟨by omega, .inl (by omega)⟩
  constructor
  case length_eq => exact count
  case edge_at =>
    intro place bound
    rw [count] at bound
    obtain ⟨known, taken⟩ := plain bound
    obtain ⟨parameter, found⟩ := ElementTree.exists_parameter taken
    have name := bindingName?_eq (inside parameter (List.mem_of_getElem? found))
    refine ⟨parameter, (b.tree.plainArguments arguments)[place], _, found, ?_, name, ?_⟩
    · rw [← ElementTree.getElem?_plainArguments known, List.getElem?_eq_getElem known]
    · rw [List.getElem?_map, ElementTree.getElem?_bindingLinks, List.getElem?_eq_getElem known,
        Option.bind_some, Nat.zero_add, ElementTree.parameterAt?_eq taken, found]
      rfl
  case plain_before =>
    intro place bound before early argument here
    rw [count] at bound
    have known := Nat.lt_of_le_of_lt early (plain bound).1
    rw [← ElementTree.getElem?_plainArguments known] at here
    exact ElementTree.kindOf_plainArguments (List.mem_of_getElem? here)

/-- What a call adds to any graph: to what it calls one edge, and one from a parameter to each
    argument that is bound; if its name has no declaration, itself and no edge. -/
theorem visit?_call (built : b.tree.Built) (shapes : b.tree.ShapesInside)
    (resolve : ∀ (i : Nat) (name : String) (d : Nat), b.resolve i name = some d → d < b.tree.size)
    {i callee : Nat} {arguments : List Nat}
    (call : (b.tree.element? i).map Element.shape = some (.call callee arguments)) (g : Graph) :
    (∀ target, b.tree.targetOf? b.resolve callee = some target →
      ∃ parameters bound g', b.tree.parametersOf? target = some parameters ∧
        b.visit? g i = some g' ∧
        g'.edges.toList = g.edges.toList ++
          ⟨b.tree.idOf i, b.tree.idOf target, .callCallee,
            "call callee: \"" ++ (b.tree.idOf i).text ++ "\"",
            b.options.palette.color .callCallee⟩ :: bound ∧
        b.tree.BindsByPosition b.options.palette parameters arguments bound) ∧
    (b.tree.targetOf? b.resolve callee = none →
      ∃ g', b.visit? g i = some g' ∧ g'.edges = g.edges ∧
        g'.containsNode (b.tree.idOf i) = true) := by
  have h : b.InRange := ⟨built.linked, shapes, resolve⟩
  obtain ⟨e, found, _⟩ := Option.map_eq_some_iff.mp call
  have inside := ElementTree.lt_size_of_element found
  have links : b.tree.links b.resolve i = b.tree.callLinks b.resolve i callee arguments := by
    rw [ElementTree.links, call]
  constructor
  · intro target called
    have inCallee : callee < b.tree.size := h.indices call callee (by simp [Shape.indices])
    have inTarget := targetOf?_lt_size h inCallee called
    obtain ⟨parameters, inParameters⟩ := parametersOf?_eq h inTarget
    refine ⟨_, _, _, parameters, visit?_eq h g inside, ?_,
      bindsByPosition inParameters b.options.palette arguments⟩
    rw [edges_draw, ElementTree.contribution, links, ElementTree.callLinks, called]
    rfl
  · intro unresolved
    have alone : b.tree.standsAlone i = true := by rw [ElementTree.standsAlone, call]
    have quiet : b.tree.links b.resolve i = [] := by
      rw [links, ElementTree.callLinks, unresolved]
    refine ⟨_, visit?_eq h g inside, ?_, ?_⟩
    · rw [draw, quiet, if_pos alone]
      exact edges_drawNode b g i
    · rw [draw, quiet, if_pos alone]
      exact Graph.containsNode_addNode g _ _

/-- A function with a parameter and a rest parameter, and a call of it with a spread argument among
    others: `f(1, 2, 3, ...s, 4)`. -/
def restAndSpread : GraphInput where
  tree := (((((((((((ElementTree.new "program" (some ⟨0, 42⟩)).push
    0 "function_declaration" (some ⟨0, 20⟩) (.function (some 2) [3, 4] none)).push
    1 "identifier" (some ⟨9, 10⟩) (.identifier "f" .declaration)).push
    1 "identifier" (some ⟨11, 12⟩) (.identifier "a" .declaration)).push
    1 "rest_pattern" (some ⟨14, 18⟩) .other).push
    0 "call_expression" (some ⟨22, 42⟩) (.call 6 [7, 8, 9, 10, 11])).push
    5 "identifier" (some ⟨22, 23⟩) (.identifier "f" .read)).push
    5 "number" (some ⟨24, 25⟩) .other).push
    5 "number" (some ⟨27, 28⟩) .other).push
    5 "number" (some ⟨30, 31⟩) .other).push
    5 "spread_element" (some ⟨33, 37⟩) .other).push
    5 "number" (some ⟨39, 40⟩) .other
  resolve _ name := if name = "f" then some 1 else none

theorem built_restAndSpread : restAndSpread.tree.Built := by
  dsimp only [restAndSpread]
  refine (((((((((((ElementTree.Built.new _ _).push 0 ?_ _ _ _).push 1 ?_ _ _ _).push
    1 ?_ _ _ _).push 1 ?_ _ _ _).push 0 ?_ _ _ _).push 5 ?_ _ _ _).push 5 ?_ _ _ _).push
    5 ?_ _ _ _).push 5 ?_ _ _ _).push 5 ?_ _ _ _).push 5 ?_ _ _ _
  all_goals decide

theorem shapesInside_restAndSpread : restAndSpread.tree.ShapesInside := by decide

theorem resolve_restAndSpread (i : Nat) (name : String) (d : Nat)
    (found : restAndSpread.resolve i name = some d) : d < restAndSpread.tree.size := by
  dsimp only [restAndSpread] at found
  split at found
  · cases found
    decide
  · cases found

theorem visit?_call_restAndSpread : restAndSpread.tree.Built ∧ restAndSpread.tree.ShapesInside ∧
    (∀ (i : Nat) (name : String) (d : Nat), restAndSpread.resolve i name = some d →
      d < restAndSpread.tree.size) ∧
    (restAndSpread.tree.element? 5).map Element.shape = some (.call 6 [7, 8, 9, 10, 11]) ∧
    ∃ bound g', restAndSpread.visit? Graph.empty 5 = some g' ∧
      g'.edges.toList = ⟨restAndSpread.tree.idOf 5, restAndSpread.tree.idOf 1, .callCallee,
        "call callee: \"call_expression-22:42\"", "purple"⟩ :: bound ∧
      bound.length = 3 ∧
      restAndSpread.tree.BindsByPosition {} [3, 4] [7, 8, 9, 10, 11] bound := by
  have call : (restAndSpread.tree.element? 5).map Element.shape =
      some (.call 6 [7, 8, 9, 10, 11]) := by decide
  have called : restAndSpread.tree.targetOf? restAndSpread.resolve 6 = some 1 := by decide
  have known : restAndSpread.tree.parametersOf? 1 = some [3, 4] := by decide
  have text : (restAndSpread.tree.idOf 5).text = "call_expression-22:42" := by decide +kernel
  obtain ⟨parameters, bound, g', given, visited, edges, binds⟩ :=
    (visit?_call built_restAndSpread shapesInside_restAndSpread resolve_restAndSpread call
      Graph.empty).1 1 called
  cases known.symm.trans given
  refine ⟨built_restAndSpread, shapesInside_restAndSpread, resolve_restAndSpread, call, bound, g',
    visited, ?_, ?_, binds⟩
  · rw [edges, text]
    rfl
  · rw [binds.length_eq]
    decide

end GraphInput
end CrossReference
