set_option autoImplicit false

/-!
# Hexadecimal digits
-/
namespace CrossReference.Text.Hex

def value? (c : Char) : Option Nat :=
  if '0' ≤ c ∧ c ≤ '9' then some (c.toNat - '0'.toNat)
  else if 'a' ≤ c ∧ c ≤ 'f' then some (c.toNat - 'a'.toNat + 10)
  else if 'A' ≤ c ∧ c ≤ 'F' then some (c.toNat - 'A'.toNat + 10)
  else none

def isDigit (c : Char) : Bool := (value? c).isSome

def ofDigits (cs : List Char) : Nat := cs.foldl (fun n c => 16 * n + (value? c).getD 0) 0

/-- Exactly `count` digits of a number, with leading zeros; `letters` gives the digits in order. -/
def fixed (letters : List Char) : Nat → Nat → List Char
  | 0, _ => []
  | count + 1, n => fixed letters count (n / 16) ++ [letters.getD (n % 16) '0']

def lower (count n : Nat) : List Char := fixed "0123456789abcdef".toList count n

def upper (count n : Nat) : List Char := fixed "0123456789ABCDEF".toList count n

end CrossReference.Text.Hex
