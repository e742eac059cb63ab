import CrossReference.Json.Read
import CrossReference.Proofs.Text.Hex

set_option autoImplicit false

/-!
# Written strings are read back

A string as it is written ends at the first quote behind it, and stands for the text it was written
for.
-/
namespace CrossReference.Json

open Text

variable {c : Char}

theorem escapeChar_cases (c : Char) :
    (∃ letter, escapeChar c = ['\\', letter] ∧ letter ∈ ['"', '\\', 'b', 't', 'n', 'f', 'r'] ∧
        unescapeLetter? letter = some c) ∨
      (∃ a b d e, escapeChar c = ['\\', 'u', a, b, d, e] ∧ [a, b, d, e].all Hex.isDigit ∧
        Hex.ofDigits [a, b, d, e] = c.toNat) ∨
      escapeChar c = [c] ∧ c ≠ '"' ∧ c ≠ '\\' ∧ ¬c.toNat < 0x20 := by
  unfold escapeChar
  split
  case h_8 quote slash _ _ _ _ _ =>
    by_cases control : c.toNat < 0x20
    · obtain ⟨a, b, d, e, written, digits, value⟩ :=
        Hex.digits_lower.fixed_four (n := c.toNat) (by omega)
      refine .inr (.inl ⟨a, b, d, e, ?_, digits, value⟩)
      rw [if_pos control, Hex.lower, written]
    · exact .inr (.inr ⟨if_neg control, quote, slash, control⟩)
  all_goals exact .inl ⟨_, rfl, by simp, rfl⟩

theorem readString?_plain (quote : c ≠ '"') (slash : c ≠ '\\') (plain : ¬c.toNat < 0x20)
    (cs : List Char) :
    readString? (c :: cs) = (readString? cs).map fun (written, rest) => (c :: written, rest) := by
  rw [readString?.eq_def]
  split
  case h_5 same =>
    cases same
    exact if_neg plain
  all_goals simp_all

theorem readString?_escapeChar (c : Char) (cs : List Char) : readString? (escapeChar c ++ cs) =
    (readString? cs).map fun (written, rest) => (escapeChar c ++ written, rest) := by
  rcases escapeChar_cases c with ⟨letter, written, known, read⟩ |
    ⟨a, b, d, e, written, digits, _⟩ | ⟨written, quote, slash, plain⟩
  · rw [written]
    simp only [List.mem_cons, List.not_mem_nil, or_false] at known
    rcases known with rfl | rfl | rfl | rfl | rfl | rfl | rfl <;> simp [readString?, read]
  · rw [written]
    simp [readString?, digits]
  · rw [written]
    exact readString?_plain quote slash plain cs

theorem readString?_escape (cs rest : List Char) :
    readString? (escape cs ++ '"' :: rest) = some (escape cs, rest) := by
  induction cs with
  | nil => simp [escape, readString?]
  | cons c cs ih =>
    rw [escape, List.flatMap_cons, ← escape, List.append_assoc, readString?_escapeChar, ih]
    rfl

theorem unitsOf?_plain (slash : c ≠ '\\') (cs : List Char) :
    unitsOf? (c :: cs) = (unitsOf? cs).map (c.toNat :: ·) := by
  rw [unitsOf?.eq_def]
  split <;> simp_all

theorem unitsOf?_escapeChar (c : Char) (cs : List Char) :
    unitsOf? (escapeChar c ++ cs) = (unitsOf? cs).map (c.toNat :: ·) := by
  rcases escapeChar_cases c with ⟨letter, written, known, read⟩ |
    ⟨a, b, d, e, written, digits, value⟩ | ⟨written, _, slash, _⟩
  · rw [written]
    simp only [List.mem_cons, List.not_mem_nil, or_false] at known
    rcases known with rfl | rfl | rfl | rfl | rfl | rfl | rfl <;>
      cases h : unitsOf? cs <;> simp [unitsOf?, read, h]
  · rw [written]
    simp [unitsOf?, digits, value]
  · rw [written]
    exact unitsOf?_plain slash cs

theorem unitsOf?_escape (cs : List Char) : unitsOf? (escape cs) = some (cs.map Char.toNat) := by
  induction cs with
  | nil => rfl
  | cons c cs ih =>
    rw [escape, List.flatMap_cons, ← escape, unitsOf?_escapeChar, ih]
    rfl

theorem not_isHighSurrogate (c : Char) : isHighSurrogate c.toNat = false := by
  have valid : c.toNat < 0xD800 ∨ 0xDFFF < c.toNat ∧ c.toNat < 0x110000 := c.valid
  simp [isHighSurrogate]
  omega

theorem not_isLowSurrogate (c : Char) : isLowSurrogate c.toNat = false := by
  have valid : c.toNat < 0xD800 ∨ 0xDFFF < c.toNat ∧ c.toNat < 0x110000 := c.valid
  simp [isLowSurrogate]
  omega

theorem joinUnits?_map (cs : List Char) : joinUnits? (cs.map Char.toNat) = some cs := by
  induction cs with
  | nil => rfl
  | cons c cs ih =>
    cases cs with
    | nil => simp [joinUnits?, not_isHighSurrogate, not_isLowSurrogate]
    | cons d cs =>
      rw [List.map_cons, List.map_cons] at *
      simp [joinUnits?, not_isHighSurrogate, not_isLowSurrogate, ih]

theorem unescape?_escape (cs : List Char) : unescape? (escape cs) = some cs := by
  rw [unescape?, unitsOf?_escape, Option.bind_some, joinUnits?_map]

theorem text?_text (s : String) : (text s).text? = some s := by
  rw [text, text?, unescape?_escape, Option.map_some, String.ofList_toList]

end CrossReference.Json
