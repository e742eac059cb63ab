import CrossReference.Error
import CrossReference.Proofs.ElementId.Text
import CrossReference.Proofs.Text.Numeral

set_option autoImplicit false

/-!
# The grammar of identities

`ElementId.Spells` says which texts stand for which identity. They are the texts that are read
(`parse_eq_ok_iff`), and among the texts of one identity the written one has the shortest numbers.
-/
namespace CrossReference

open Text

namespace Position

inductive Spells : List Char → Position → Prop
  | synthetic {digits : List Char} {n : UInt32} (number : Decimal.Numeral digits n.toNat) :
      Spells ('#' :: digits) (.synthetic n)
  | «at» {first second : List Char} {s : Span} (start : Decimal.Numeral first s.start.toNat)
      (stop : Decimal.Numeral second s.stop.toNat) (ordered : s.start ≤ s.stop) :
      Spells (first ++ ':' :: second) (.at s)

def numerals : List Char → List (List Char)
  | '#' :: digits => [digits]
  | cs => parts ':' cs

variable {cs first second : List Char} {m n : Nat} {p : Position} {s : Span}

theorem colon_not_mem (h : Decimal.Numeral cs n) : ':' ∉ cs := h.not_mem (by decide) rfl

theorem append_colon_ne (h : Decimal.Numeral first n) (digits : List Char) :
    first ++ ':' :: second ≠ '#' :: digits := by
  intro same
  have hash : '#' ∉ first := h.not_mem (by decide) rfl
  cases first with
  | nil => exact absurd (List.cons.inj same).1 (by decide)
  | cons c rest => exact hash ((List.cons.inj same).1 ▸ List.mem_cons_self)

theorem read_append (hm : Decimal.Numeral first m) (hn : Decimal.Numeral second n)
    (mFits : m < UInt64.size) (nFits : n < UInt64.size) : read (first ++ ':' :: second) =
      if n < m then .error .stopBeforeStart
      else .ok (.at ⟨UInt64.ofNat m, UInt64.ofNat n⟩) := by
  unfold read
  split
  · next digits same => exact absurd same (append_colon_ne hm digits)
  · rw [splitFirst?_append second (colon_not_mem hm)]
    simp only
    rw [Decimal.readBelow?_eq_some_iff.mpr ⟨hm, mFits⟩,
      Decimal.readBelow?_eq_some_iff.mpr ⟨hn, nFits⟩]

theorem spells_of_read (h : read cs = .ok p) : Spells cs p := by
  unfold read at h
  split at h
  · split at h
    · next n number =>
      cases h
      obtain ⟨numeral, fits⟩ := Decimal.readBelow?_eq_some_iff.mp number
      exact .synthetic (by rwa [UInt32.toNat_ofNat_of_lt' fits])
    · cases h
  · split at h
    · cases h
    · next first second split =>
      obtain ⟨rfl, _⟩ := of_splitFirst?_eq_some split
      split at h
      · cases h
      · cases h
      · next start stop startRead stopRead =>
        obtain ⟨startNumeral, startFits⟩ := Decimal.readBelow?_eq_some_iff.mp startRead
        obtain ⟨stopNumeral, stopFits⟩ := Decimal.readBelow?_eq_some_iff.mp stopRead
        split at h
        · cases h
        · next ordered =>
          cases h
          have startEq := UInt64.toNat_ofNat_of_lt' startFits
          have stopEq := UInt64.toNat_ofNat_of_lt' stopFits
          refine .at (by rwa [startEq]) (by rwa [stopEq]) ?_
          rw [UInt64.le_iff_toNat_le, startEq, stopEq]
          exact Nat.not_lt.mp ordered

theorem read_of_spells (h : Spells cs p) : read cs = .ok p := by
  cases h with
  | @synthetic digits n number =>
    rw [read, Decimal.readBelow?_eq_some_iff.mpr ⟨number, UInt32.toNat_lt_size n⟩]
    simp
  | @«at» first second s start stop ordered =>
    rw [read_append start stop (UInt64.toNat_lt_size _) (UInt64.toNat_lt_size _),
      if_neg (Nat.not_lt.mpr (UInt64.le_iff_toNat_le.mp ordered)), UInt64.ofNat_toNat,
      UInt64.ofNat_toNat]

theorem read_write_of_reversed (h : s.stop < s.start) :
    read (Position.at s).write = .error .stopBeforeStart := by
  rw [write, read_append (Decimal.numeral_write _) (Decimal.numeral_write _)
    (UInt64.toNat_lt_size _) (UInt64.toNat_lt_size _), if_pos (UInt64.lt_iff_toNat_lt.mp h)]

theorem Spells.eq_write_iff (h : Spells cs p) :
    cs = p.write ↔ ∀ numeral ∈ numerals cs, Decimal.Shortest numeral := by
  cases h with
  | synthetic number => simp [write, numerals, number.eq_write_iff]
  | @«at» first second s start stop ordered =>
    have both : numerals (first ++ ':' :: second) = [first, second] := by
      unfold numerals
      split
      · next digits same => exact absurd same (append_colon_ne start digits)
      · rw [parts_append second (colon_not_mem start), parts_of_not_mem (colon_not_mem stop)]
    have split : first ++ ':' :: second = (Position.at s).write ↔
        first = Decimal.write s.start.toNat ∧ second = Decimal.write s.stop.toNat := by
      constructor
      · intro same
        have left := splitFirst?_append second (colon_not_mem start)
        rw [same, write, splitFirst?_append _ (colon_not_mem (Decimal.numeral_write _))] at left
        obtain ⟨rfl, rfl⟩ := Prod.mk.inj (Option.some.inj left)
        exact ⟨rfl, rfl⟩
      · rintro ⟨rfl, rfl⟩
        rfl
    rw [split, both, start.eq_write_iff, stop.eq_write_iff]
    simp

end Position

namespace ElementId

def Spells (text : String) (id : ElementId) : Prop :=
  ∃ position, text.toList = id.kind.toList ++ '-' :: position ∧ id.kind ≠ "" ∧ '-' ∉ position ∧
    Position.Spells position id.position

/-- An identity that an element of a source can have. -/
def Proper (id : ElementId) : Prop := id.kind ≠ "" ∧ ∀ s, id.span? = some s → s.start ≤ s.stop

def numerals (text : String) : List (List Char) :=
  ((splitLast? '-' text.toList).map fun parts => Position.numerals parts.2).getD []

variable {text : String} {id : ElementId}

theorem parse_eq_ok_iff : parse text = .ok id ↔ Spells text id := by
  constructor
  · intro h
    unfold parse at h
    split at h
    · cases h
    · next kind position split =>
      obtain ⟨whole, dash⟩ := of_splitLast?_eq_some split
      split at h
      · cases h
      · next nonempty =>
        cases read : Position.read position with
        | error fault => rw [read] at h; cases h
        | ok p =>
          rw [read] at h
          cases h
          refine ⟨position, by simpa using whole, ?_, dash, Position.spells_of_read read⟩
          simpa using nonempty
  · rintro ⟨position, whole, kind, dash, spells⟩
    have nonempty : id.kind.toList ≠ [] := by simpa using kind
    rw [parse, whole, splitLast?_append _ dash]
    simp only
    rw [if_neg nonempty, Position.read_of_spells spells, String.ofList_toList]
    rfl

theorem read_eq_ok_iff_parse : read text = .ok id ↔ parse text = .ok id := by
  rw [read]
  cases parse text <;> simp [Except.mapError]

theorem Spells.proper (h : Spells text id) : id.Proper := by
  obtain ⟨position, _, kind, _, spells⟩ := h
  refine ⟨kind, fun s span => ?_⟩
  obtain ⟨kind, p⟩ := id
  cases spells with
  | synthetic number => cases span
  | «at» start stop ordered => cases span; exact ordered

theorem parse_text_of_proper (h : id.Proper) : parse id.text = .ok id := parse_text h.1 h.2

theorem parse_text_of_not_proper (h : ¬id.Proper) : ∃ fault, parse id.text = .error fault := by
  rw [parse, toList_text, splitLast?_append _ id.position.dash_not_mem_write]
  simp only
  by_cases kind : id.kind = ""
  · exact ⟨.emptyKind, if_pos (by simp [kind])⟩
  · rw [if_neg (by simpa using kind)]
    obtain ⟨s, span, reversed⟩ : ∃ s, id.span? = some s ∧ s.stop < s.start := by
      simpa [Proper, kind] using h
    obtain ⟨_, p⟩ := id
    cases p with
    | synthetic n => cases span
    | «at» t =>
      cases span
      exact ⟨.stopBeforeStart, by rw [Position.read_write_of_reversed reversed]; rfl⟩

theorem Spells.text_eq_iff (h : Spells text id) :
    id.text = text ↔ ∀ numeral ∈ numerals text, Decimal.Shortest numeral := by
  obtain ⟨position, whole, _, dash, spells⟩ := h
  have parts : numerals text = Position.numerals position := by
    rw [numerals, whole, splitLast?_append _ dash]
    rfl
  rw [parts, ← spells.eq_write_iff, ← String.toList_inj, toList_text, whole]
  simp [eq_comm]

/-- What is read, that writing tells identities apart and is read back, and when reading and writing
    give the same text. -/
theorem text_format :
    (∀ text id, read text = .ok id ↔ Spells text id) ∧
      (∀ id : ElementId, id.Proper → read id.text = .ok id ∧
        readSpan id.text = match id.span? with
          | some s => .ok s
          | none => .error (.invalidId .withoutSpan id.text)) ∧
      (∀ a b : ElementId, a.text = b.text → a = b) ∧
      ∀ text id, read text = .ok id →
        (id.text = text ↔ ∀ numeral ∈ numerals text, Decimal.Shortest numeral) := by
  refine ⟨fun text id => ?_, fun id proper => ⟨?_, ?_⟩, fun a b => text_injective, ?_⟩
  · rw [read_eq_ok_iff_parse, parse_eq_ok_iff]
  · exact read_eq_ok_iff_parse.mpr (parse_text_of_proper proper)
  · rw [readSpan, spanOf, parse_text_of_proper proper]
    simp only
    cases id.span? <;> rfl
  · intro text id h
    exact (parse_eq_ok_iff.mp (read_eq_ok_iff_parse.mp h)).text_eq_iff

theorem text_format_signed :
    let id : ElementId := ⟨"a-#0", .at ⟨1, 2⟩⟩
    read "a-#0-+1:02" = .ok id ∧ id.Proper ∧ readSpan id.text = .ok ⟨1, 2⟩ ∧
      id.text ≠ "a-#0-+1:02" := by
  intro id
  have read : read "a-#0-+1:02" = .ok id := by decide +kernel
  have proper : id.Proper := (((text_format.1 _ _).mp read)).proper
  refine ⟨read, proper, (text_format.2.1 id proper).2, fun same => ?_⟩
  have shortest := (text_format.2.2.2 _ _ read).mp same ['+', '1'] (by decide +kernel)
  exact shortest.1 rfl

end ElementId
end CrossReference
