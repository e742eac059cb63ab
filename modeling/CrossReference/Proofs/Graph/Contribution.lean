import CrossReference.Graph.Build
import CrossReference.Proofs.Element.Inside
import CrossReference.Proofs.Element.Reach

set_option autoImplicit false

/-!
# What each element contributes to a graph

The links that an element draws and the elements it touches, told by the tree and by what names
resolve to, and not by what other elements have drawn.
-/
namespace CrossReference

structure Link where
  source : Nat
  target : Nat
  relation : Relation
  label : String

namespace ElementTree

variable (t : ElementTree) (resolve : Nat → String → Option Nat)

def idOf (i : Nat) : ElementId := (t.id? i).getD ⟨"", .synthetic 0⟩

def kindOf (i : Nat) : String := ((t.element? i).map Element.kind).getD ""

/-- What a call calls: for a plain name its declaration, if there is one. -/
def targetOf? (callee : Nat) : Option Nat :=
  match (t.element? callee).bind Element.name? with
  | some name => resolve callee name
  | none => some callee

def parametersOf (target : Nat) : List Nat := (t.parametersOf? target).getD []

def parameterAt? (parameters : List Nat) (place : Nat) : Option Nat :=
  (parameters[place]?).or
    (parameters.getLast?.filter fun last => t.kindOf last = "rest_pattern")

def parameterName (parameter : Nat) : String :=
  ((t.bindingName? parameter).getD none).getD (t.kindOf parameter)

def bindingLink (parameter argument : Nat) : Link :=
  ⟨parameter, argument, .callArgumentBinding, "call args: \"" ++ t.parameterName parameter ++ "\""⟩

/-- The links from parameters to the arguments before the first spread one, place by place. -/
def bindingLinks (parameters : List Nat) (place : Nat) (arguments : List Nat) : List Link :=
  let plain := arguments.takeWhile fun argument => t.kindOf argument ≠ "spread_element"
  (plain.zipIdx place).filterMap fun (argument, place) =>
    (t.parameterAt? parameters place).map fun parameter => t.bindingLink parameter argument

def callLinks (i callee : Nat) (arguments : List Nat) : List Link :=
  match t.targetOf? resolve callee with
  | none => []
  | some target =>
    ⟨i, target, .callCallee, "call callee: \"" ++ (t.idOf i).text ++ "\""⟩ ::
      t.bindingLinks (t.parametersOf target) 0 arguments

def links (i : Nat) : List Link :=
  match (t.element? i).map Element.shape with
  | some (.identifier name .read) =>
    (resolve i name).toList.map fun declaration =>
      ⟨i, declaration, .reference, "ref: \"" ++ name ++ "\""⟩
  | some (.call callee arguments) => t.callLinks resolve i callee arguments
  | some (.declarator _ initializer) =>
    initializer.toList.map fun value => ⟨i, value, .valueAssignment, "value assignment"⟩
  | some (.returns argument) =>
    argument.toList.map fun value =>
      ⟨t.functionAround i, value, .returnArgument, "return argument"⟩
  | _ => []

/-- Whether an element is a node even if it draws no link. -/
def standsAlone (i : Nat) : Bool :=
  match (t.element? i).map Element.shape with
  | some (.identifier _ .read) | some (.call _ _) | some (.declarator _ _) => true
  | _ => false

def touched (i : Nat) : List Nat :=
  (if t.standsAlone i then [i] else []) ++
    (t.links resolve i).flatMap fun link => [link.source, link.target]

def edge (palette : Palette) (link : Link) : GraphEdge :=
  ⟨t.idOf link.source, t.idOf link.target, link.relation, link.label, palette.color link.relation⟩

def contribution (palette : Palette) (i : Nat) : List GraphEdge :=
  (t.links resolve i).map (t.edge palette)

end ElementTree

namespace GraphInput

/-- Nothing leads outside the tree, neither a shape nor what a name resolves to. -/
structure InRange (b : GraphInput) : Prop where
  linked : b.tree.Linked
  shapes : b.tree.ShapesInside
  resolve : ∀ (i : Nat) (name : String) (d : Nat), b.resolve i name = some d → d < b.tree.size

def node (b : GraphInput) (i : Nat) : GraphNode := ⟨b.tree.idOf i, (b.label? i).getD ""⟩

def drawNode (b : GraphInput) (g : Graph) (i : Nat) : Graph :=
  g.addNode (b.node i).id (b.node i).label

def drawLink (b : GraphInput) (g : Graph) (link : Link) : Graph :=
  (b.drawNode (b.drawNode g link.source) link.target).addEdge
    (b.tree.edge b.options.palette link)

def drawLinks (b : GraphInput) (g : Graph) (links : List Link) : Graph := links.foldl b.drawLink g

def draw (b : GraphInput) (g : Graph) (i : Nat) : Graph :=
  b.drawLinks (if b.tree.standsAlone i then b.drawNode g i else g) (b.tree.links b.resolve i)

section
variable {b : GraphInput} {g : Graph} {i j : Nat}

theorem label?_eq (inside : i < b.tree.size) : b.label? i = some (b.node i).label := by
  have given : (b.label? i).isSome := by
    obtain ⟨e, found⟩ := ElementTree.exists_element inside
    simp only [label?, ElementTree.text?, found, Option.bind_eq_bind, Option.pure_def,
      Option.bind_some]
    split
    · split <;> rfl
    · rfl
  obtain ⟨label, eq⟩ := Option.isSome_iff_exists.mp given
  rw [node, eq]
  rfl

theorem id?_eq (inside : i < b.tree.size) : b.tree.id? i = some (b.tree.idOf i) := by
  obtain ⟨e, found⟩ := ElementTree.exists_element inside
  rw [ElementTree.idOf, ElementTree.id?, found]
  rfl

theorem addNode?_eq (g : Graph) (inside : i < b.tree.size) :
    b.addNode? g i = some (b.drawNode g i) := by
  obtain ⟨e, found⟩ := ElementTree.exists_element inside
  have id : (b.node i).id = e.id := by
    rw [node, ElementTree.idOf, ElementTree.id?, found]
    rfl
  rw [addNode?, found, label?_eq inside, drawNode, id]
  rfl

theorem connect?_eq (g : Graph) (source : i < b.tree.size) (target : j < b.tree.size)
    (relation : Relation) (label : String) :
    b.connect? g i j relation label = some (b.drawLink g ⟨i, j, relation, label⟩) := by
  simp only [connect?, addEdge?, addNode?_eq _ source, addNode?_eq _ target, id?_eq source,
    id?_eq target, Option.bind_eq_bind, Option.bind_some, Option.pure_def]
  rfl

theorem InRange.indices (h : b.InRange) {shape : Shape}
    (given : (b.tree.element? i).map Element.shape = some shape) :
    ∀ j ∈ shape.indices, j < b.tree.size := by
  obtain ⟨e, found, rfl⟩ := Option.map_eq_some_iff.mp given
  exact h.shapes i e found

theorem addReference?_eq (h : b.InRange) (g : Graph) (inside : i < b.tree.size) {name : String}
    (shape : (b.tree.element? i).map Element.shape = some (.identifier name .read)) :
    b.addReference? g i name = some (b.draw g i) := by
  have alone : b.tree.standsAlone i = true := by rw [ElementTree.standsAlone, shape]
  rw [addReference?, addNode?_eq g inside, draw, ElementTree.links, shape, if_pos alone]
  simp only [Option.bind_eq_bind, Option.bind_some]
  cases declared : b.resolve i name with
  | none => rfl
  | some declaration =>
    exact connect?_eq _ inside (h.resolve i name declaration declared) _ _

theorem kind_eq {e : Element} (found : b.tree.element? i = some e) : b.tree.kindOf i = e.kind := by
  rw [ElementTree.kindOf, found]
  rfl

theorem bindingName?_eq (inside : i < b.tree.size) :
    b.tree.bindingName? i = some ((b.tree.bindingName? i).getD none) := by
  obtain ⟨e, found⟩ := ElementTree.exists_element inside
  have given : (b.tree.bindingName? i).isSome := by
    simp only [ElementTree.bindingName?, found, Option.bind_eq_bind, Option.bind_some]
    split <;> rfl
  obtain ⟨name, eq⟩ := Option.isSome_iff_exists.mp given
  rw [eq]
  rfl

theorem restParameter?_eq {parameters : List Nat}
    (inside : ∀ p ∈ parameters, p < b.tree.size) :
    b.restParameter? parameters =
      some (parameters.getLast?.filter fun last => b.tree.kindOf last = "rest_pattern") := by
  rw [restParameter?]
  cases last : parameters.getLast? with
  | none => rfl
  | some p =>
    obtain ⟨e, found⟩ := ElementTree.exists_element (inside p (List.mem_of_getLast? last))
    simp only [found, Option.bind_eq_bind, Option.bind_some, Option.pure_def]
    rw [Option.filter_some, kind_eq found]
    simp

theorem parameterAt?_eq_none {t : ElementTree} {parameters : List Nat} {place later : Nat}
    (ended : t.parameterAt? parameters place = none) (less : place ≤ later) :
    t.parameterAt? parameters later = none := by
  obtain ⟨beyond, noRest⟩ := Option.or_eq_none_iff.mp ended
  have beyond := List.getElem?_eq_none_iff.mp beyond
  rw [ElementTree.parameterAt?, noRest, Option.or_none]
  exact List.getElem?_eq_none (Nat.le_trans beyond less)

theorem parameterAt?_lt_size {parameters : List Nat}
    (inside : ∀ p ∈ parameters, p < b.tree.size) {place p : Nat}
    (h : b.tree.parameterAt? parameters place = some p) : p < b.tree.size := by
  rcases Option.or_eq_some_iff.mp h with here | ⟨_, last⟩
  · exact inside p (List.mem_of_getElem? here)
  · exact inside p (List.mem_of_getLast? (Option.filter_eq_some_iff.mp last).1)

theorem bindingLinks_eq_nil {t : ElementTree} {parameters : List Nat} {place : Nat}
    (ended : t.parameterAt? parameters place = none) (arguments : List Nat) :
    t.bindingLinks parameters place arguments = [] := by
  apply List.filterMap_eq_nil_iff.mpr
  rintro ⟨argument, later⟩ found
  have less := (List.mk_mem_zipIdx_iff_le_and_getElem?_sub.mp found).1
  simp only
  rw [parameterAt?_eq_none ended less]
  rfl

theorem bindingLinks_cons (t : ElementTree) (parameters : List Nat) (place argument : Nat)
    (rest : List Nat) : t.bindingLinks parameters place (argument :: rest) =
      if t.kindOf argument = "spread_element" then []
      else match t.parameterAt? parameters place with
        | none => []
        | some parameter =>
          t.bindingLink parameter argument :: t.bindingLinks parameters (place + 1) rest := by
  by_cases spread : t.kindOf argument = "spread_element"
  · simp [ElementTree.bindingLinks, spread]
  · rw [if_neg spread]
    cases reached : t.parameterAt? parameters place with
    | none => exact bindingLinks_eq_nil reached _
    | some parameter => simp [ElementTree.bindingLinks, spread, reached]

theorem bindArguments?_eq {parameters : List Nat} (inParameters : ∀ p ∈ parameters, p < b.tree.size)
    (place : Nat) {arguments : List Nat} (inArguments : ∀ a ∈ arguments, a < b.tree.size)
    (g : Graph) :
    b.bindArguments? parameters
        (parameters.getLast?.filter fun last => b.tree.kindOf last = "rest_pattern") place
        arguments g =
      some (b.drawLinks g (b.tree.bindingLinks parameters place arguments)) := by
  induction arguments generalizing place g with
  | nil => rfl
  | cons argument rest ih =>
    have inside := inArguments argument List.mem_cons_self
    obtain ⟨e, found⟩ := ElementTree.exists_element inside
    have either : (parameters[place]? <|> parameters.getLast?.filter fun last =>
        b.tree.kindOf last = "rest_pattern") = b.tree.parameterAt? parameters place := by
      rw [ElementTree.parameterAt?]
      cases parameters[place]? <;> rfl
    rw [bindArguments?, found, bindingLinks_cons, kind_eq found, either]
    simp only [Option.bind_eq_bind, Option.bind_some]
    by_cases spread : e.kind = "spread_element"
    · rw [if_pos spread, if_pos spread]
      rfl
    · rw [if_neg spread, if_neg spread]
      cases reached : b.tree.parameterAt? parameters place with
      -- without a parameter here there is none for later arguments either
      | none => rfl
      | some parameter =>
        have inParameter := parameterAt?_lt_size inParameters reached
        obtain ⟨p, foundParameter⟩ := ElementTree.exists_element inParameter
        simp only
        rw [bindingName?_eq inParameter, foundParameter]
        simp only [Option.bind_some]
        rw [connect?_eq g inParameter inside, Option.bind_some,
          ih (place + 1) fun a ha => inArguments a (List.mem_cons_of_mem _ ha),
          ← kind_eq foundParameter]
        rfl

theorem parametersOf?_eq (h : b.InRange) (inside : i < b.tree.size) :
    b.tree.parametersOf? i = some (b.tree.parametersOf i) ∧
      ∀ p ∈ b.tree.parametersOf i, p < b.tree.size := by
  obtain ⟨e, found⟩ := ElementTree.exists_element inside
  have shapes := h.shapes i e found
  suffices ∃ parameters, b.tree.parametersOf? i = some parameters ∧
      ∀ p ∈ parameters, p < b.tree.size by
    obtain ⟨parameters, given, all⟩ := this
    rw [ElementTree.parametersOf, given]
    exact ⟨rfl, all⟩
  simp only [ElementTree.parametersOf?, found, Option.bind_eq_bind, Option.bind_some]
  split
  · next name parameters body shape =>
    rw [shape] at shapes
    exact ⟨parameters, rfl, fun p hp => shapes p (by simp [Shape.indices, hp])⟩
  · next target value shape =>
    rw [shape] at shapes
    obtain ⟨v, foundValue⟩ := ElementTree.exists_element (shapes value (by simp [Shape.indices]))
    have shapesValue := h.shapes value v foundValue
    simp only [foundValue, Option.bind_some]
    split
    · next name parameters body shape =>
      rw [shape] at shapesValue
      exact ⟨parameters, rfl, fun p hp => shapesValue p (by simp [Shape.indices, hp])⟩
    · exact ⟨[], rfl, fun p hp => nomatch hp⟩
  · exact ⟨[], rfl, fun p hp => nomatch hp⟩

theorem callTarget?_eq {callee : Nat} (inside : callee < b.tree.size) :
    b.callTarget? callee = some (b.tree.targetOf? b.resolve callee) := by
  obtain ⟨e, found⟩ := ElementTree.exists_element inside
  simp only [callTarget?, ElementTree.targetOf?, found, Option.bind_eq_bind, Option.bind_some]
  cases e.name? <;> rfl

theorem targetOf?_lt_size (h : b.InRange) {callee target : Nat} (inside : callee < b.tree.size)
    (found : b.tree.targetOf? b.resolve callee = some target) : target < b.tree.size := by
  rw [ElementTree.targetOf?] at found
  split at found
  · next name _ => exact h.resolve callee name target found
  · exact Option.some.inj found ▸ inside

theorem addCall?_eq (h : b.InRange) (g : Graph) (inside : i < b.tree.size) {callee : Nat}
    {arguments : List Nat}
    (shape : (b.tree.element? i).map Element.shape = some (.call callee arguments)) :
    b.addCall? g i callee arguments = some (b.draw g i) := by
  have alone : b.tree.standsAlone i = true := by rw [ElementTree.standsAlone, shape]
  have indices := h.indices shape
  have inCallee : callee < b.tree.size := indices callee (by simp [Shape.indices])
  have inArguments : ∀ a ∈ arguments, a < b.tree.size := fun a ha =>
    indices a (by simp [Shape.indices, ha])
  rw [addCall?, addNode?_eq g inside, callTarget?_eq inCallee, draw, ElementTree.links, shape,
    if_pos alone]
  simp only [Option.bind_eq_bind, Option.bind_some, ElementTree.callLinks]
  cases target : b.tree.targetOf? b.resolve callee with
  | none => rfl
  | some target =>
    have inTarget := targetOf?_lt_size h inCallee (by assumption)
    obtain ⟨parameters, inParameters⟩ := parametersOf?_eq h inTarget
    simp only [id?_eq inside, parameters, restParameter?_eq inParameters,
      connect?_eq _ inside inTarget, Option.bind_some]
    exact bindArguments?_eq inParameters 0 inArguments _

theorem addDeclarator?_eq (h : b.InRange) (g : Graph) (inside : i < b.tree.size) {target : Nat}
    {initializer : Option Nat}
    (shape : (b.tree.element? i).map Element.shape = some (.declarator target initializer)) :
    b.addDeclarator? g i initializer = some (b.draw g i) := by
  have alone : b.tree.standsAlone i = true := by rw [ElementTree.standsAlone, shape]
  have indices := h.indices shape
  rw [addDeclarator?, addNode?_eq g inside, draw, ElementTree.links, shape, if_pos alone]
  simp only [Option.bind_eq_bind, Option.bind_some]
  cases initializer with
  | none => rfl
  | some value => exact connect?_eq _ inside (indices value (by simp [Shape.indices])) _ _

theorem addReturn?_eq (h : b.InRange) (g : Graph) (inside : i < b.tree.size)
    {argument : Option Nat}
    (shape : (b.tree.element? i).map Element.shape = some (.returns argument)) :
    b.addReturn? g i argument = some (b.draw g i) := by
  have quiet : b.tree.standsAlone i = false := by rw [ElementTree.standsAlone, shape]
  have indices := h.indices shape
  rw [draw, ElementTree.links, shape, quiet]
  cases argument with
  | none => rfl
  | some value =>
    have inFunction := ElementTree.functionAround_lt_size h.linked inside
    simp only [addReturn?, ElementTree.enclosingFunction?_eq inside, Option.bind_eq_bind,
      Option.bind_some]
    exact connect?_eq _ inFunction (indices value (by simp [Shape.indices])) _ _

/-- Visiting an element adds its contribution, whatever the graph holds already. -/
theorem visit?_eq (h : b.InRange) (g : Graph) (inside : i < b.tree.size) :
    b.visit? g i = some (b.draw g i) := by
  obtain ⟨e, found⟩ := ElementTree.exists_element inside
  have shape : (b.tree.element? i).map Element.shape = some e.shape := by
    rw [found]
    rfl
  have silent (links : b.tree.links b.resolve i = []) (quiet : b.tree.standsAlone i = false) :
      some g = some (b.draw g i) := by
    rw [draw, links, quiet]
    rfl
  rw [visit?, found]
  simp only [Option.bind_eq_bind, Option.bind_some]
  cases kind : e.shape
  all_goals rw [kind] at shape
  case identifier name role =>
    cases role
    case read => exact addReference?_eq h g inside shape
    all_goals
      exact silent (by rw [ElementTree.links, shape]) (by rw [ElementTree.standsAlone, shape])
  case call callee arguments => exact addCall?_eq h g inside shape
  case declarator target initializer => exact addDeclarator?_eq h g inside shape
  case returns argument => exact addReturn?_eq h g inside shape
  all_goals
    exact silent (by rw [ElementTree.links, shape]) (by rw [ElementTree.standsAlone, shape])

theorem bindingLinks_lt_size {parameters arguments : List Nat}
    (inParameters : ∀ p ∈ parameters, p < b.tree.size)
    (inArguments : ∀ a ∈ arguments, a < b.tree.size) {place : Nat} {link : Link}
    (h : link ∈ b.tree.bindingLinks parameters place arguments) :
    link.source < b.tree.size ∧ link.target < b.tree.size := by
  obtain ⟨⟨argument, reached⟩, inside, eq⟩ := List.mem_filterMap.mp h
  obtain ⟨parameter, found, rfl⟩ := Option.map_eq_some_iff.mp eq
  have plain := List.fst_mem_of_mem_zipIdx inside
  exact ⟨parameterAt?_lt_size inParameters found,
    inArguments argument ((List.takeWhile_sublist _).subset plain)⟩

theorem links_lt_size (h : b.InRange) (inside : i < b.tree.size) {link : Link}
    (drawn : link ∈ b.tree.links b.resolve i) :
    link.source < b.tree.size ∧ link.target < b.tree.size := by
  obtain ⟨e, found⟩ := ElementTree.exists_element inside
  have indices := h.shapes i e found
  rw [ElementTree.links, found, Option.map_some] at drawn
  cases shape : e.shape
  all_goals rw [shape] at drawn indices
  case identifier name role =>
    cases role
    case read =>
      obtain ⟨d, declared, rfl⟩ := List.mem_map.mp drawn
      exact ⟨inside, h.resolve i name d (Option.mem_toList.mp declared)⟩
    all_goals cases drawn
  case call callee arguments =>
    simp only [ElementTree.callLinks] at drawn
    have inCallee : callee < b.tree.size := indices callee (by simp [Shape.indices])
    split at drawn
    · cases drawn
    · next target called =>
      have inTarget := targetOf?_lt_size h inCallee called
      rcases List.mem_cons.mp drawn with same | binding
      · rw [same]
        exact ⟨inside, inTarget⟩
      · exact bindingLinks_lt_size (parametersOf?_eq h inTarget).2
          (fun a ha => indices a (by simp [Shape.indices, ha])) binding
  case declarator target initializer =>
    obtain ⟨value, given, rfl⟩ := List.mem_map.mp drawn
    exact ⟨inside, indices value (List.mem_cons_of_mem _ given)⟩
  case returns argument =>
    obtain ⟨value, given, rfl⟩ := List.mem_map.mp drawn
    exact ⟨ElementTree.functionAround_lt_size h.linked inside, indices value given⟩
  all_goals cases drawn

theorem touched_lt_size (h : b.InRange) (inside : i < b.tree.size) :
    ∀ j ∈ b.tree.touched b.resolve i, j < b.tree.size := by
  intro j hj
  rcases List.mem_append.mp hj with own | ofLink
  · split at own
    · rw [List.mem_singleton.mp own]
      exact inside
    · cases own
  · obtain ⟨link, drawn, ends⟩ := List.mem_flatMap.mp ofLink
    obtain ⟨source, target⟩ := links_lt_size h inside drawn
    rcases List.mem_cons.mp ends with same | last
    · rw [same]
      exact source
    · rw [List.mem_singleton.mp last]
      exact target

end

end GraphInput
end CrossReference
