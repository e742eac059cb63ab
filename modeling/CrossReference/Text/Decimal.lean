set_option autoImplicit false

/-!
# Unsigned decimal numbers

Offsets and ordinals are read from text by one rule: an optional plus sign, then at least one ASCII
digit. Leading zeros carry no weight. Written numbers have neither, so writing and reading agree.
-/
namespace CrossReference.Text.Decimal

def ofDigits? (cs : List Char) : Option Nat :=
  if cs ≠ [] ∧ cs.all Char.isDigit = true then some (Nat.ofDigitChars 10 cs 0) else none

/-- One plus sign may stand in front of the digits. -/
def read? : List Char → Option Nat
  | '+' :: cs => ofDigits? cs
  | cs => ofDigits? cs

def readBelow? (bound : Nat) (cs : List Char) : Option Nat := (read? cs).filter (· < bound)

def write (n : Nat) : List Char := Nat.toDigits 10 n

theorem write_ne_nil (n : Nat) : write n ≠ [] := Nat.toDigits_ne_nil

theorem isDigit_of_mem_write {n : Nat} {c : Char} (h : c ∈ write n) : c.isDigit = true :=
  Nat.isDigit_of_mem_toDigits (by decide) (by decide) h

theorem ofDigits?_write (n : Nat) : ofDigits? (write n) = some n := by
  have digits : (write n).all Char.isDigit = true :=
    List.all_eq_true.mpr fun _ h => isDigit_of_mem_write h
  simp only [ofDigits?, write_ne_nil, ne_eq, not_false_eq_true, digits, and_self, if_true]
  exact congrArg some (Nat.ofDigitChars_toDigits (by decide) (by decide))

theorem read?_write (n : Nat) : read? (write n) = some n := by
  unfold read?
  split
  · next cs h =>
    have plus : ('+' : Char).isDigit = true := isDigit_of_mem_write (h ▸ List.mem_cons_self)
    simp at plus
  · exact ofDigits?_write n

theorem readBelow?_write {bound n : Nat} (h : n < bound) : readBelow? bound (write n) = some n := by
  simp [readBelow?, read?_write, h]

end CrossReference.Text.Decimal
