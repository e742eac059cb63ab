import CrossReference.Program
import CrossReference.Proofs.Parse.Nodes
import Mathlib.Data.List.Induction

set_option autoImplicit false

/-!
# The fault that a source is refused for

The search for a fault goes only where there is a mark, and yet it finds the fault that comes first
among all nodes of the tree. So a strict reading fails where there is a fault and tells the place of
the first one, and a lenient reading never fails: `refusesFaults_of_marked`.
-/
namespace CrossReference

namespace Text

def Place.behind (bytes : List UInt8) : Place :=
  ⟨bytes.count 10 + 1, (bytes.reverse.takeWhile (· ≠ 10)).length + 1⟩

theorem Place.foldl_next (bytes : List UInt8) : bytes.foldl next ⟨1, 1⟩ = behind bytes := by
  induction bytes using List.reverseRecOn with
  | nil => rfl
  | append_singleton bytes byte ih =>
    rw [List.foldl_concat, ih, next]
    by_cases feed : byte = 10
    · simp [behind, feed]
    · simp [behind, feed]

theorem placeAt_eq (text : String) (offset : Nat) :
    placeAt text offset = .behind (text.toUTF8.data.toList.take offset) := by
  rw [placeAt, ← Array.foldl_toList, ByteArray.data_extract, Array.toList_extract, List.extract,
    Nat.sub_zero, List.drop_zero, Place.foldl_next]

end Text

namespace ParseNode

/-- What a parser promises of its marks: the nodes that are faulty or have a fault below them are
    marked, and no others. -/
def FaultsMarked (root : ParseNode) : Prop :=
  ∀ n ∈ root.nodes, n.head.hasFault = true ↔ ∃ m ∈ n.nodes, m.isFaulty = true

instance (root : ParseNode) : Decidable root.FaultsMarked :=
  inferInstanceAs (Decidable (∀ n ∈ root.nodes, _))

/-- Nothing that the search passes over is a fault. How the nodes inside a faulty one are marked
    does not matter, as the search never looks at them. -/
inductive Leads : ParseNode → Prop
  | fault {n : ParseNode} (faulty : n.isFaulty = true) : Leads n
  | inner {n : ParseNode}
      (skipped : ∀ c ∈ n.children, c.head.hasFault = false → ∀ m ∈ c.nodes, m.isFaulty = false)
      (below : ∀ c ∈ n.children, Leads c) : Leads n

theorem size_le_sizeAll {n : ParseNode} {list : List ParseNode} (h : n ∈ list) :
    n.size ≤ sizeAll list := by
  induction list with
  | nil => cases h
  | cons first rest ih =>
    rw [sizeAll]
    rcases List.mem_cons.mp h with same | inside
    · rw [same]
      exact Nat.le_add_right _ _
    · exact Nat.le_add_left_of_le (ih inside)

theorem size_lt_of_mem_children {n c : ParseNode} (h : c ∈ n.children) : c.size < n.size := by
  cases n
  rw [size]
  exact Nat.lt_one_add_iff.mpr (size_le_sizeAll h)

theorem leads_of_marked (n : ParseNode) (marked : n.FaultsMarked) : n.Leads := by
  have child {c : ParseNode} (hc : c ∈ n.children) : c ∈ n.nodes :=
    mem_nodes_of_mem_children n.mem_nodes_self hc
  refine .inner ?_ ?_
  · intro c hc unmarked m hm
    apply Bool.eq_false_iff.mpr
    intro faulty
    have mark := (marked c (child hc)).mpr ⟨m, hm, faulty⟩
    rw [unmarked] at mark
    cases mark
  · intro c hc
    exact leads_of_marked c fun m hm => marked m (nodes_subset_of_mem n (child hc) hm)
termination_by n.size
decreasing_by exact size_lt_of_mem_children hc

theorem nodesIn_append (a b : List ParseNode) : nodesIn (a ++ b) = nodesIn a ++ nodesIn b := by
  induction a with
  | nil => rfl
  | cons n rest ih => rw [List.cons_append, nodesIn, nodesIn, ih, List.append_assoc]

theorem find?_nodesIn_filter {list : List ParseNode} (skipped : ∀ c ∈ list,
      c.head.hasFault = false → ∀ m ∈ c.nodes, m.isFaulty = false) :
    (nodesIn (list.filter fun c => c.head.hasFault)).find? isFaulty =
      (nodesIn list).find? isFaulty := by
  induction list with
  | nil => rfl
  | cons c rest ih =>
    have later := ih fun c hc => skipped c (List.mem_cons_of_mem _ hc)
    rw [List.filter_cons]
    cases mark : c.head.hasFault with
    | true => rw [if_pos rfl, nodesIn, nodesIn, List.find?_append, List.find?_append, later]
    | false =>
      have none : c.nodes.find? isFaulty = none := by
        rw [List.find?_eq_none]
        intro m hm
        rw [skipped c List.mem_cons_self mark m hm]
        exact Bool.false_ne_true
      rw [if_neg Bool.false_ne_true, later, nodesIn, List.find?_append, none, Option.none_or]

/-- The stack holds, one after the other, all parts of the tree in which a fault may still come. -/
theorem firstFaultOn?_eq {stack : List ParseNode} (leads : ∀ n ∈ stack, n.Leads) :
    firstFaultOn? stack = (nodesIn stack).find? isFaulty := by
  induction stack using firstFaultOn?.induct with
  | case1 =>
    rw [firstFaultOn?]
    rfl
  | case2 n stack faulty =>
    rw [firstFaultOn?, if_pos faulty, nodesIn, nodes_eq, List.cons_append,
      List.find?_cons_of_pos faulty]
  | case3 n stack other ih =>
    cases leads n List.mem_cons_self with
    | fault faulty => exact absurd faulty other
    | inner skipped below =>
      have pruned : (nodesIn n.markedChildren).find? isFaulty =
          (nodesIn n.children).find? isFaulty := find?_nodesIn_filter skipped
      have found := ih fun c hc => (List.mem_append.mp hc).elim
        (fun child => below c (List.mem_of_mem_filter child))
        fun waiting => leads c (List.mem_cons_of_mem _ waiting)
      rw [firstFaultOn?, if_neg other, found, nodesIn_append, List.find?_append, pruned, nodesIn,
        nodes_eq, List.cons_append, List.find?_cons_of_neg other, List.find?_append]

theorem firstFault?_eq {root : ParseNode} (leads : root.Leads) :
    root.firstFault? = root.nodes.find? isFaulty := by
  rw [firstFault?, firstFaultOn?_eq (List.forall_mem_singleton.mpr leads), nodesIn, nodesIn,
    List.append_nil]

def faultText (source : String) (n : ParseNode) : String :=
  let place := Text.Place.behind (source.toUTF8.data.toList.take n.span.start.toNat)
  (if n.head.isMissing then "missing \x60" ++ n.kind ++ "\x60 at line "
    else "syntax error at line ")
    ++ toString place.line ++ ", column " ++ toString place.column

theorem faultText_ne (source : String) (n : ParseNode) : n.faultText source ≠ "syntax error" := by
  have missing : "missing \x60".length = 9 := by decide
  have line : "\x60 at line ".length = 10 := by decide
  have unexpected : "syntax error at line ".length = 21 := by decide
  have short : "syntax error".length = 12 := by decide
  intro same
  have length := congrArg String.length same
  rw [faultText] at length
  by_cases invented : n.head.isMissing = true
  · simp only [if_pos invented, String.length_append, missing, line, short] at length
    omega
  · simp only [if_neg invented, String.length_append, unexpected, short] at length
    omega

theorem describe_describeFault {root n : ParseNode} (found : root.firstFault? = some n)
    (source : String) : (root.describeFault source).describe = n.faultText source := by
  rw [describeFault, found]
  simp only [Text.placeAt_eq, faultText]
  generalize Text.Place.behind _ = place
  cases n.head.isMissing <;> rfl

end ParseNode

namespace Program

/-- How faults decide what becomes of a source. -/
structure RefusesFaults (source : String) (root : ParseNode) : Prop where
  lenient : read false source root = .ok (ofParse source root)
  fails_iff : (∃ error, read true source root = .error error) ↔
    ∃ n ∈ root.nodes, n.isFaulty = true
  same : (∀ n ∈ root.nodes, n.isFaulty = false) → read true source root = read false source root
  first : ∀ n, root.nodes.find? ParseNode.isFaulty = some n → ∃ error,
    read true source root = .error error ∧ error.message = "Parse error: " ++ n.faultText source
  located : ∀ error, read true source root = .error error →
    error.message ≠ "Parse error: syntax error"

theorem refusesFaults_of_marked {root : ParseNode} (marked : root.FaultsMarked)
    (source : String) : RefusesFaults source root := by
  have mark := marked root root.mem_nodes_self
  have search := ParseNode.firstFault?_eq (ParseNode.leads_of_marked root marked)
  have clean (none : ∀ n ∈ root.nodes, n.isFaulty = false) (strict : Bool) :
      read strict source root = .ok (ofParse source root) := by
    have unmarked : root.head.hasFault = false := by
      rw [Bool.eq_false_iff, ne_eq, mark]
      rintro ⟨n, hn, faulty⟩
      rw [none n hn] at faulty
      cases faulty
    rw [read, ParseNode.fault?, if_neg (by rw [unmarked]; exact Bool.false_ne_true)]
  have refused {n : ParseNode} (found : root.nodes.find? ParseNode.isFaulty = some n) :
      read true source root = .error (.parse (root.describeFault source)) ∧
        (root.describeFault source).describe = n.faultText source := by
    have faulty : root.head.hasFault = true :=
      mark.mpr ⟨n, List.mem_of_find?_eq_some found, List.find?_some found⟩
    rw [read, ParseNode.fault?, if_pos faulty]
    exact ⟨rfl, ParseNode.describe_describeFault (search.trans found) source⟩
  have cases : (∀ n ∈ root.nodes, n.isFaulty = false) ∨
      ∃ n, root.nodes.find? ParseNode.isFaulty = some n := by
    cases found : root.nodes.find? ParseNode.isFaulty with
    | none => exact .inl fun n hn => Bool.eq_false_iff.mpr (List.find?_eq_none.mp found n hn)
    | some n => exact .inr ⟨n, rfl⟩
  constructor
  case lenient =>
    rw [read]
    cases root.fault? source <;> rfl
  case fails_iff =>
    constructor
    · rintro ⟨error, failed⟩
      rcases cases with none | ⟨n, found⟩
      · rw [clean none] at failed
        cases failed
      · exact ⟨n, List.mem_of_find?_eq_some found, List.find?_some found⟩
    · rintro ⟨n, hn, faulty⟩
      rcases cases with none | ⟨first, found⟩
      · rw [none n hn] at faulty
        cases faulty
      · exact ⟨_, (refused found).1⟩
  case same => exact fun none => (clean none true).trans (clean none false).symm
  case first =>
    intro n found
    obtain ⟨failed, text⟩ := refused found
    exact ⟨_, failed, congrArg ("Parse error: " ++ ·) text⟩
  case located =>
    intro error failed
    rcases cases with none | ⟨n, found⟩
    · rw [clean none] at failed
      cases failed
    · obtain ⟨failed', text⟩ := refused found
      obtain rfl := Except.error.inj (failed.symm.trans failed')
      have whole : "Parse error: syntax error" = "Parse error: " ++ "syntax error" := by decide
      have message := congrArg ("Parse error: " ++ ·) text
      intro clash
      exact n.faultText_ne source
        ((String.append_right_inj "Parse error: ").mp (message.symm.trans (clash.trans whole)))

end Program

def ParseNode.missingBrace : ParseNode :=
  .mk ⟨11, "\x7d", ⟨14, 14⟩, false, false, false, true, true⟩ [] []

/-- The parse of `a /* b */` and `{{c}`, on two lines. -/
def ParseNode.unclosedBlock : ParseNode :=
  let head (number : Nat) (kind : String) (start stop : UInt64) (isNamed : Bool) : NodeHead :=
    ⟨number, kind, ⟨start, stop⟩, isNamed, kind = "comment", false, false, false⟩
  let marked (head : NodeHead) : NodeHead := { head with hasFault := true }
  let token (number : Nat) (kind : String) (start stop : UInt64) : ParseNode :=
    .mk (head number kind start stop false) [] []
  let used (number : Nat) (start stop : UInt64) : ParseNode :=
    .mk (head number "expression_statement" start stop true) []
      [.mk (head (number + 1) "identifier" start stop true) [] []]
  let closed : ParseNode :=
    .mk (head 6 "statement_block" 11 14 true) []
      [token 7 "\x7b" 11 12, used 8 12 13, token 10 "\x7d" 13 14]
  let unclosed : ParseNode :=
    .mk (marked (head 4 "statement_block" 10 14 true)) []
      [token 5 "\x7b" 10 11, closed, missingBrace]
  .mk (marked (head 0 "program" 0 14 true)) []
    [used 1 0 1, .mk (head 3 "comment" 2 9 true) [] [], unclosed]

theorem Program.refusesFaults_of_marked_unclosedBlock :
    ParseNode.unclosedBlock.FaultsMarked ∧ ∃ error,
      read true "a /* b */\n\x7b\x7bc\x7d" ParseNode.unclosedBlock = .error error ∧
        error.message = "Parse error: missing \x60\x7d\x60 at line 2, column 5" := by
  have marked : ParseNode.unclosedBlock.FaultsMarked := by decide
  have found : ParseNode.unclosedBlock.nodes.find? ParseNode.isFaulty = some .missingBrace := rfl
  obtain ⟨error, failed, message⟩ :=
    (refusesFaults_of_marked marked "a /* b */\n\x7b\x7bc\x7d").first .missingBrace found
  exact ⟨marked, error, failed, message.trans (by decide)⟩

end CrossReference
