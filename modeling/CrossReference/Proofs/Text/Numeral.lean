import Mathlib.Data.List.Induction
import CrossReference.Text.Decimal

set_option autoImplicit false

/-!
# Numerals

Which texts are read as a number, and which of them is the one that is written.
-/
namespace CrossReference.Text.Decimal

/-- One plus sign may stand in front of at least one digit. -/
inductive Numeral : List Char → Nat → Prop
  | plain {digits : List Char} (some : digits ≠ []) (all : ∀ c ∈ digits, c.isDigit) :
      Numeral digits (Nat.ofDigitChars 10 digits 0)
  | signed {digits : List Char} (some : digits ≠ []) (all : ∀ c ∈ digits, c.isDigit) :
      Numeral ('+' :: digits) (Nat.ofDigitChars 10 digits 0)

def Shortest (numeral : List Char) : Prop :=
  numeral.head? ≠ some '+' ∧ (numeral.head? = some '0' → numeral = ['0'])

variable {cs : List Char} {n : Nat}

theorem ofDigits?_eq_some_iff :
    ofDigits? cs = some n ↔ cs ≠ [] ∧ (∀ c ∈ cs, c.isDigit) ∧ Nat.ofDigitChars 10 cs 0 = n := by
  simp [ofDigits?, and_assoc]

theorem read?_eq_some_iff : read? cs = some n ↔ Numeral cs n := by
  constructor
  · intro h
    unfold read? at h
    split at h
    · obtain ⟨some, all, rfl⟩ := ofDigits?_eq_some_iff.mp h
      exact .signed some all
    · obtain ⟨some, all, rfl⟩ := ofDigits?_eq_some_iff.mp h
      exact .plain some all
  · intro h
    cases h with
    | signed some all => exact ofDigits?_eq_some_iff.mpr ⟨some, all, rfl⟩
    | plain some all =>
      unfold read?
      split
      · simp at all
      · exact ofDigits?_eq_some_iff.mpr ⟨some, all, rfl⟩

theorem readBelow?_eq_some_iff {bound : Nat} :
    readBelow? bound cs = some n ↔ Numeral cs n ∧ n < bound := by
  simp [readBelow?, read?_eq_some_iff]

theorem numeral_write (n : Nat) : Numeral (write n) n := read?_eq_some_iff.mp (read?_write n)

theorem Numeral.mem_cases (h : Numeral cs n) {c : Char} (hc : c ∈ cs) : c = '+' ∨ c.isDigit := by
  cases h with
  | plain _ all => exact .inr (all c hc)
  | signed _ all => exact (List.mem_cons.mp hc).imp_right (all c)

theorem Numeral.not_mem (h : Numeral cs n) {c : Char} (sign : c ≠ '+') (digit : c.isDigit = false) :
    c ∉ cs := by
  intro hc
  rcases h.mem_cases hc with eq | isDigit
  · exact sign eq
  · rw [digit] at isDigit
    cases isDigit

theorem write_of_lt {n : Nat} (h : n < 10) : write n = [n.digitChar] := Nat.toDigits_of_lt_base h

theorem write_of_le {n : Nat} (h : 10 ≤ n) :
    write n = write (n / 10) ++ [(n % 10).digitChar] := Nat.toDigits_of_base_le (by decide) h

theorem digitChar_of_isDigit {c : Char} (h : c.isDigit) :
    c.toNat - '0'.toNat < 10 ∧ (c.toNat - '0'.toNat).digitChar = c := by
  have small : c.toNat < 58 := by
    simp [Char.isDigit, UInt32.le_iff_toNat_le] at h
    exact Nat.lt_succ_of_le h.2
  have each : ∀ n < 58, (Char.ofNat n).isDigit →
      n - '0'.toNat < 10 ∧ (n - '0'.toNat).digitChar = Char.ofNat n := by decide
  have digit := each c.toNat small
  rw [Char.ofNat_toNat] at digit
  exact digit h

theorem write_ofDigitChars (nonempty : cs ≠ []) (digits : ∀ c ∈ cs, c.isDigit)
    (start : cs.head? = some '0' → cs = ['0']) : write (Nat.ofDigitChars 10 cs 0) = cs := by
  induction cs using List.reverseRecOn with
  | nil => exact absurd rfl nonempty
  | append_singleton front last ih =>
    obtain ⟨small, char⟩ := digitChar_of_isDigit (digits last (by simp))
    by_cases single : front = []
    · subst single
      rw [List.nil_append, Nat.ofDigitChars_cons, Nat.ofDigitChars_nil, Nat.mul_zero, Nat.zero_add,
        write_of_lt small, char]
    · have noZero : front.head? ≠ some '0' := by
        intro zero
        have whole := start (by rw [List.head?_append, zero]; rfl)
        obtain ⟨c, more, rfl⟩ := List.exists_cons_of_ne_nil single
        simp at whole
      have written := ih single (fun c hc => digits c (List.mem_append_left _ hc))
        fun zero => absurd zero noZero
      -- A value of zero would be written as the zero that the digits do not start with.
      have positive : Nat.ofDigitChars 10 front 0 ≠ 0 := by
        intro zero
        rw [zero, show write 0 = ['0'] from rfl] at written
        exact noZero (by rw [← written]; rfl)
      rw [Nat.ofDigitChars_append, Nat.ofDigitChars_cons, Nat.ofDigitChars_nil]
      generalize last.toNat - '0'.toNat = d at small char ⊢
      have quotient : (10 * Nat.ofDigitChars 10 front 0 + d) / 10 =
          Nat.ofDigitChars 10 front 0 := by omega
      have remainder : (10 * Nat.ofDigitChars 10 front 0 + d) % 10 = d := by omega
      rw [write_of_le (by omega), quotient, remainder, written, char]

theorem shortest_write (n : Nat) : Shortest (write n) := by
  constructor
  · intro plus
    have digit := isDigit_of_mem_write (List.mem_of_head? plus)
    simp at digit
  · intro zero
    induction n using Nat.strongRecOn with
    | ind n ih =>
      rcases Nat.lt_or_ge n 10 with small | large
      · rw [write_of_lt small] at zero ⊢
        rw [Option.some.inj zero]
      · rw [write_of_le large, List.head?_append] at zero
        have front : (write (n / 10)).head? = some '0' := by
          obtain ⟨c, more, eq⟩ := List.exists_cons_of_ne_nil (write_ne_nil (n / 10))
          rw [eq] at zero ⊢
          exact zero
        -- Only zero is written with a zero in front, and no number from ten on has a tenth of zero.
        have none := congrArg (Nat.ofDigitChars 10 · 0) (ih (n / 10) (by omega) front)
        simp only [write, Nat.ofDigitChars_ten_toDigits] at none
        have : n / 10 = 0 := none
        omega

/-- The number that is written is the only one of its value without sign and superfluous zeros. -/
theorem Numeral.eq_write_iff (h : Numeral cs n) : cs = write n ↔ Shortest cs := by
  constructor
  · intro eq
    rw [eq]
    exact shortest_write n
  · intro shortest
    cases h with
    | plain some all => exact (write_ofDigitChars some all shortest.2).symm
    | signed some all => exact absurd rfl shortest.1

end CrossReference.Text.Decimal
