import CrossReference.Text.Hex

set_option autoImplicit false

/-!
# Reading hexadecimal digits back
-/
namespace CrossReference.Text.Hex

def Digits (letters : List Char) : Prop := ∀ i < 16, value? (letters.getD i '0') = some i

theorem digits_lower : Digits "0123456789abcdef".toList := by unfold Digits; decide +kernel

theorem digits_upper : Digits "0123456789ABCDEF".toList := by unfold Digits; decide +kernel

theorem Digits.fixed_four {letters : List Char} (h : Digits letters) {n : Nat} (small : n < 65536) :
    ∃ a b c d, fixed letters 4 n = [a, b, c, d] ∧ [a, b, c, d].all isDigit ∧
      ofDigits [a, b, c, d] = n := by
  have digit (m : Nat) : value? (letters.getD (m % 16) '0') = some (m % 16) :=
    h _ (Nat.mod_lt m (by decide))
  refine ⟨_, _, _, _, rfl, ?_, ?_⟩
  · simp only [List.all_cons, List.all_nil, isDigit, digit, Option.isSome_some, Bool.and_self]
  · simp only [ofDigits, List.foldl_cons, List.foldl_nil, digit, Option.getD_some]
    omega

end CrossReference.Text.Hex
