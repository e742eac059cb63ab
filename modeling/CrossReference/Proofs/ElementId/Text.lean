import CrossReference.ElementId

set_option autoImplicit false

/-!
# Identities as text

The text of an identity tells it apart from every other, whatever characters its kind holds, and it
is read back where the kind is not empty and the span not reversed.
-/
namespace CrossReference

open Text

theorem Text.Decimal.not_mem_write {n : Nat} {c : Char} (h : c.isDigit = false) :
    c ∉ Decimal.write n := by
  intro inside
  rw [Decimal.isDigit_of_mem_write inside] at h
  cases h

theorem Text.Decimal.write_injective {m n : Nat} (h : Decimal.write m = Decimal.write n) :
    m = n := by
  have same := Decimal.read?_write m
  rw [h, Decimal.read?_write] at same
  exact (Option.some.inj same).symm

namespace Position

theorem dash_not_mem_write (p : Position) : '-' ∉ p.write := by
  have digits (n : Nat) : '-' ∉ Decimal.write n := Decimal.not_mem_write rfl
  cases p with
  | «at» span => simp [write, digits]
  | synthetic ordinal => simp [write, digits]

theorem head_write_ne (n : Nat) (after digits : List Char) :
    Decimal.write n ++ ':' :: after ≠ '#' :: digits := by
  intro same
  cases number : Decimal.write n with
  | nil => exact Decimal.write_ne_nil n number
  | cons c rest =>
    rw [number] at same
    obtain rfl : c = '#' := (List.cons.inj same).1
    have hash : '#' ∉ Decimal.write n := Decimal.not_mem_write rfl
    rw [number] at hash
    exact hash List.mem_cons_self

theorem write_injective {p q : Position} (h : p.write = q.write) : p = q := by
  cases p with
  | «at» s =>
    cases q with
    | «at» t =>
      have colon (n : Nat) : ':' ∉ Decimal.write n := Decimal.not_mem_write rfl
      have left := splitFirst?_append (Decimal.write s.stop.toNat) (colon s.start.toNat)
      have right := splitFirst?_append (Decimal.write t.stop.toNat) (colon t.start.toNat)
      rw [show Decimal.write s.start.toNat ++ ':' :: Decimal.write s.stop.toNat =
        Decimal.write t.start.toNat ++ ':' :: Decimal.write t.stop.toNat from h, right] at left
      obtain ⟨start, stop⟩ := Prod.mk.inj (Option.some.inj left)
      have start := UInt64.toNat_inj.mp (Decimal.write_injective start)
      have stop := UInt64.toNat_inj.mp (Decimal.write_injective stop)
      cases s
      cases t
      simp only at start stop
      rw [start, stop]
    | synthetic n => exact absurd h (head_write_ne _ _ _)
  | synthetic m =>
    cases q with
    | «at» t => exact absurd h.symm (head_write_ne _ _ _)
    | synthetic n =>
      have same := Decimal.write_injective (List.cons.inj h).2
      rw [UInt32.toNat_inj.mp same]

theorem read_write {p : Position} (ordered : ∀ s, p.span? = some s → s.start ≤ s.stop) :
    read p.write = .ok p := by
  cases p with
  | synthetic n =>
    have digits := Decimal.readBelow?_write (UInt32.toNat_lt_size n)
    rw [write, read, digits]
    simp
  | «at» s =>
    have order := UInt64.le_iff_toNat_le.mp (ordered s rfl)
    have first := Decimal.readBelow?_write (UInt64.toNat_lt_size s.start)
    have second := Decimal.readBelow?_write (UInt64.toNat_lt_size s.stop)
    have colon : ':' ∉ Decimal.write s.start.toNat := Decimal.not_mem_write rfl
    have parts := splitFirst?_append (Decimal.write s.stop.toNat) colon
    rw [write]
    unfold read
    split
    · next digits same => exact absurd same (head_write_ne _ _ _)
    · rw [parts]
      simp only [first, second]
      rw [if_neg (Nat.not_lt.mpr order), UInt64.ofNat_toNat, UInt64.ofNat_toNat]

end Position

namespace ElementId

theorem toList_text (id : ElementId) :
    id.text.toList = id.kind.toList ++ '-' :: id.position.write := by
  simp [text]

theorem text_injective {a b : ElementId} (h : a.text = b.text) : a = b := by
  have left := splitLast?_append a.kind.toList a.position.dash_not_mem_write
  have right := splitLast?_append b.kind.toList b.position.dash_not_mem_write
  rw [← toList_text, h, toList_text, right] at left
  obtain ⟨kind, position⟩ := Prod.mk.inj (Option.some.inj left)
  cases a
  cases b
  simp only at kind position
  rw [String.toList_inj.mp kind, Position.write_injective position]

theorem parse_text {id : ElementId} (kind : id.kind ≠ "")
    (ordered : ∀ s, id.span? = some s → s.start ≤ s.stop) : parse id.text = .ok id := by
  have nonempty : id.kind.toList ≠ [] := by simpa using kind
  rw [parse, toList_text, splitLast?_append _ id.position.dash_not_mem_write]
  simp only
  rw [if_neg nonempty, Position.read_write ordered, String.ofList_toList]
  rfl

theorem spanOf_text {id : ElementId} {s : Span} (kind : id.kind ≠ "") (span : id.span? = some s)
    (ordered : s.start ≤ s.stop) : spanOf id.text = .ok s := by
  have parsed := parse_text kind fun t same => by
    rw [span] at same
    cases same
    exact ordered
  rw [spanOf, parsed]
  simp only [span]

end ElementId
end CrossReference
