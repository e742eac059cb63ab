import CrossReference.Proofs.Text.Hex
import CrossReference.Toml.Text
import CrossReference.Toml.Write

set_option autoImplicit false

/-!
# Written strings are read back

Each of the four forms is read back where the writer chooses it: `string?_writeString`. In the forms
on several lines the quotes of a text come close to the three that close it, so what stands behind a
quote is looked at first.
-/
namespace CrossReference.Toml

open Text

variable {c : Char} {cs rest : List Char} {run : Nat}

theorem isPlain_of_not_needsEscape (h : needsEscape c = false) (line : c ≠ '\n') :
    isPlain c = true := by
  simp [needsEscape] at h
  simp [isPlain]
  by_cases tab : c = '\t'
  · exact .inl tab
  · exact .inr ⟨Nat.not_lt.mp fun low => tab (h.2 low line), h.1⟩

theorem ne_of_isPlain {d : Char} (h : isPlain c = true) (control : isPlain d = false) : c ≠ d := by
  rintro rfl
  rw [control] at h
  cases h

theorem prepend_some (c : Char) (text rest : List Char) :
    prepend c (some (text, rest)) = some (c :: text, rest) := rfl

theorem unescapeHex?_upper (small : c.toNat < 128) : ∃ a b d e,
    Hex.upper 4 c.toNat = [a, b, d, e] ∧ unescapeHex? [a, b, d, e] = some c := by
  obtain ⟨a, b, d, e, written, digits, value⟩ :=
    Hex.digits_upper.fixed_four (n := c.toNat) (by omega)
  refine ⟨a, b, d, e, written, ?_⟩
  have valid : c.toNat.isValidChar := .inl (by omega)
  rw [unescapeHex?, if_pos digits, value, scalar?, if_pos valid, Char.ofNat_toNat]

theorem escapeChar_cases (c : Char) :
    (∃ letter, escapeChar c = ['\\', letter] ∧ letter ∈ ['b', 't', 'f', 'r', '\\'] ∧
        unescapeLetter? letter = some c) ∨
      (∃ a b d e, escapeChar c = ['\\', 'u', a, b, d, e] ∧ unescapeHex? [a, b, d, e] = some c) ∨
      escapeChar c = [c] ∧ c ≠ '\\' ∧ c ≠ '\t' ∧ isPlain c = true := by
  unfold escapeChar
  split
  case h_6 _ tab _ _ slash =>
    by_cases control : c.toNat < 32 ∨ c.toNat = 127
    · obtain ⟨a, b, d, e, written, read⟩ := unescapeHex?_upper (c := c) (by omega)
      exact .inr (.inl ⟨a, b, d, e, by rw [if_pos (by simpa using control), written], read⟩)
    · exact .inr (.inr ⟨if_neg (by simpa using control), slash, tab, by simp [isPlain]; omega⟩)
  all_goals exact .inl ⟨_, rfl, by simp, rfl⟩

theorem basic?_plain (quote : c ≠ '"') (slash : c ≠ '\\') (plain : isPlain c = true)
    (cs : List Char) : basic? (c :: cs) = prepend c (basic? cs) := by
  rw [basic?.eq_def]
  split <;> simp_all

theorem basic?_escapeChar (quote : c ≠ '"') (cs : List Char) :
    basic? (escapeChar c ++ cs) = prepend c (basic? cs) := by
  rcases escapeChar_cases c with ⟨letter, written, known, read⟩ | ⟨a, b, d, e, written, read⟩ |
    ⟨written, slash, _, plain⟩
  · rw [written]
    simp only [List.mem_cons, List.not_mem_nil, or_false] at known
    rcases known with rfl | rfl | rfl | rfl | rfl <;> simp [basic?, read]
  · rw [written]
    simp [basic?, read]
  · rw [written]
    exact basic?_plain quote slash plain cs

theorem basic?_escape (cs rest : List Char) :
    basic? (escape cs ++ '"' :: rest) = some (cs, rest) := by
  induction cs with
  | nil => simp [escape, basic?]
  | cons c cs ih =>
    rw [escape.eq_def]
    split
    · next same => cases same
    · next same => cases same; simp [basic?, unescapeLetter?, ih, prepend_some]
    · next same => cases same; simp [basic?, unescapeLetter?, ih, prepend_some]
    · next line quote same =>
      cases same
      rw [List.append_assoc, basic?_escapeChar quote, ih, prepend_some]

theorem basicLines?_plain {joining : Bool} (quote : c ≠ '"') (slash : c ≠ '\\') (line : c ≠ '\n')
    (space : c ≠ ' ') (tab : c ≠ '\t') (plain : isPlain c = true) (cs : List Char) :
    basicLines? joining (c :: cs) = prepend c (basicLines? false cs) := by
  have ret : c ≠ '\r' := ne_of_isPlain plain rfl
  rw [basicLines?.eq_def]
  split <;> simp_all

theorem basicLines?_escapeChar (quote : c ≠ '"') (line : c ≠ '\n') (cs : List Char) :
    basicLines? false (escapeChar c ++ cs) = prepend c (basicLines? false cs) := by
  rcases escapeChar_cases c with ⟨letter, written, known, read⟩ | ⟨a, b, d, e, written, read⟩ |
    ⟨written, slash, tab, plain⟩
  · rw [written]
    simp only [List.mem_cons, List.not_mem_nil, or_false] at known
    rcases known with rfl | rfl | rfl | rfl | rfl <;>
      simp [basicLines?, endsLine, skipSpace, isSpace, newline?, read]
  · rw [written]
    simp [basicLines?, read]
  · rw [written, List.singleton_append]
    by_cases space : c = ' '
    · subst space
      simp [basicLines?]
    · exact basicLines?_plain quote slash line space tab plain cs

theorem basicLines?_quote (h : ¬['"', '"'] <+: cs) :
    basicLines? false ('"' :: cs) = prepend '"' (basicLines? false cs) := by
  have alone (more : List Char) : cs ≠ '"' :: '"' :: more := by
    rintro rfl
    exact h ⟨more, rfl⟩
  rw [basicLines?.eq_def]
  split <;> simp_all
  next same =>
    obtain ⟨rfl, rfl⟩ := same
    rfl

theorem escapeLines_of_ne (line : c ≠ '\n') (quote : c ≠ '"') (cs : List Char) :
    escapeLines run (c :: cs) = escapeChar c ++ escapeLines 0 cs := by
  rw [escapeLines.eq_def]
  split <;> simp_all

/-- A quote in front of what is written on several lines is one of the text, or closes it. -/
theorem of_quote_cons_eq {ahead : List Char} (h : '"' :: ahead = escapeLines run cs ++ rest) :
    cs = [] ∨ ∃ more, cs = '"' :: more ∧ run ≠ 2 := by
  rw [escapeLines.eq_def] at h
  split at h
  · exact .inl rfl
  · cases h
  · next more =>
    refine .inr ⟨more, rfl, fun full => ?_⟩
    rw [if_pos full] at h
    cases h
  · next c more _ quote =>
    rcases escapeChar_cases c with ⟨_, written, _⟩ | ⟨_, _, _, _, written, _⟩ | ⟨written, _⟩
    all_goals rw [written] at h; cases h
    exact absurd rfl quote

theorem basicLines?_escapeLines (few : run ≤ 2) (cs rest : List Char) :
    basicLines? false (escapeLines run cs ++ '"' :: '"' :: '"' :: '\n' :: rest) =
      some (cs, '\n' :: rest) := by
  induction cs generalizing run with
  | nil => simp [escapeLines, basicLines?]
  | cons c cs ih =>
    by_cases line : c = '\n'
    · subst line
      simp [escapeLines, basicLines?, ih, prepend_some]
    by_cases quote : c = '"'
    · subst quote
      rw [escapeLines]
      split
      · simp [basicLines?, endsLine, skipSpace, isSpace, newline?, unescapeLetter?, ih,
          prepend_some]
      · next room =>
        by_cases three : ['"', '"'] <+:
          escapeLines (run + 1) cs ++ '"' :: '"' :: '"' :: '\n' :: rest
        · -- The text ends here or behind one more quote.
          obtain ⟨more, starts⟩ := three
          rcases of_quote_cons_eq starts with rfl | ⟨more', rfl, second⟩
          · simp [escapeLines, basicLines?]
          · obtain rfl : run = 0 := by omega
            rw [escapeLines, if_neg second] at starts ⊢
            rcases of_quote_cons_eq (List.cons.inj starts).2 with rfl | ⟨_, _, third⟩
            · simp [escapeLines, basicLines?]
            · exact absurd rfl third
        · rw [List.cons_append, basicLines?_quote three, ih (by omega), prepend_some]
    · rw [escapeLines_of_ne line quote, List.append_assoc,
        basicLines?_escapeChar quote line, ih (by omega), prepend_some]

theorem literal?_append (plain : ∀ c ∈ cs, needsEscape c = false) (quote : '\'' ∉ cs)
    (line : '\n' ∉ cs) (rest : List Char) : literal? (cs ++ '\'' :: rest) = some (cs, rest) := by
  induction cs with
  | nil => simp [literal?]
  | cons c cs ih =>
    simp only [List.mem_cons, not_or, forall_eq_or_imp] at plain quote line
    have hp := isPlain_of_not_needsEscape plain.1 (Ne.symm line.1)
    have step : literal? (c :: (cs ++ '\'' :: rest)) =
        prepend c (literal? (cs ++ '\'' :: rest)) := by
      rw [literal?.eq_def]
      split <;> simp_all
    rw [List.cons_append, step, ih plain.2 quote.2 line.2, prepend_some]

theorem le_longestRun (c : Char) (run : Nat) (cs : List Char) : run ≤ longestRun c run cs := by
  induction cs generalizing run with
  | nil => exact Nat.le_refl _
  | cons d cs ih =>
    rw [longestRun]
    split
    · exact Nat.le_trans (Nat.le_succ _) (ih _)
    · exact Nat.le_max_left _ _

theorem literalLines?_cons {next : List Char} (three : c = '\'' → ¬['\'', '\''] <+: next)
    (plain : needsEscape c = false) :
    literalLines? (c :: next) = prepend c (literalLines? next) := by
  have alone (more : List Char) : c = '\'' → next ≠ '\'' :: '\'' :: more := by
    rintro quote rfl
    exact three quote ⟨more, rfl⟩
  have ret : c ≠ '\r' := by rintro rfl; cases plain
  have hp := isPlain_of_not_needsEscape plain
  rw [literalLines?.eq_def]
  split <;> simp_all

theorem literalLines?_append (plain : ∀ c ∈ cs, needsEscape c = false)
    (few : longestRun '\'' run cs ≤ 2) (rest : List Char) :
    literalLines? (cs ++ '\'' :: '\'' :: '\'' :: '\n' :: rest) = some (cs, '\n' :: rest) := by
  induction cs generalizing run with
  | nil => simp [literalLines?]
  | cons c cs ih =>
    simp only [List.mem_cons, forall_eq_or_imp] at plain
    by_cases three : c = '\'' ∧ ['\'', '\''] <+: cs ++ '\'' :: '\'' :: '\'' :: '\n' :: rest
    · -- The text ends here or behind one more quote, as a third one would be too many.
      obtain ⟨rfl, more, starts⟩ := three
      match cs, starts, few with
      | [], _, _ => simp [literalLines?]
      | [d], starts, _ =>
        obtain rfl := (List.cons.inj starts).1
        simp [literalLines?]
      | d :: e :: cs, starts, few =>
        obtain rfl := (List.cons.inj starts).1
        obtain rfl := (List.cons.inj (List.cons.inj starts).2).1
        have many := le_longestRun '\'' (run + 1 + 1 + 1) cs
        simp [longestRun] at few
        omega
    · have fewer : ∃ run', longestRun '\'' run' cs ≤ 2 := by
        rw [longestRun] at few
        split at few
        · exact ⟨_, few⟩
        · exact ⟨_, Nat.le_trans (Nat.le_max_right _ _) few⟩
      obtain ⟨run', few⟩ := fewer
      rw [List.cons_append, literalLines?_cons (fun quote ahead => three ⟨quote, ahead⟩) plain.1,
        ih plain.2 few, prepend_some]

theorem of_form_literal (h : StringForm.of cs = .literal) :
    (∀ c ∈ cs, needsEscape c = false) ∧ '\'' ∉ cs ∧ '\n' ∉ cs := by
  simp only [StringForm.of] at h
  split at h
  · cases h
  · split at h
    · next chosen => simp_all
    · split at h
      · cases h
      · split at h
        · cases h
        · split at h <;> cases h

theorem of_form_literalLines (h : StringForm.of cs = .literalLines) :
    (∀ c ∈ cs, needsEscape c = false) ∧ longestRun '\'' 0 cs ≤ 2 := by
  simp only [StringForm.of] at h
  split at h
  · cases h
  · split at h
    · cases h
    · split at h
      · cases h
      · split at h
        · next chosen => simp_all
        · split at h <;> cases h

theorem trimFirstBreak_firstBreak (cs : List Char) {next : List Char}
    (h : '\n' ∉ cs → newline? next = none) : trimFirstBreak (firstBreak cs ++ next) = next := by
  rw [firstBreak]
  split
  · rfl
  · next line =>
    rw [List.nil_append, trimFirstBreak, h (by simpa using line)]
    rfl

theorem newline?_of_head (line : c ≠ '\n') (ret : c ≠ '\r') (cs : List Char) :
    newline? (c :: cs) = none := by
  rw [newline?.eq_def]
  split <;> simp_all

theorem newline?_escapeLines (line : '\n' ∉ cs) (rest : List Char) :
    newline? (escapeLines 0 cs ++ '"' :: rest) = none := by
  rw [escapeLines.eq_def]
  split
  · rfl
  · exact absurd List.mem_cons_self line
  · rfl
  · next c more line' quote =>
    rcases escapeChar_cases c with
      ⟨_, written, _⟩ | ⟨_, _, _, _, written, _⟩ | ⟨written, _, _, plain⟩
    all_goals rw [written]
    · rfl
    · rfl
    · exact newline?_of_head line' (ne_of_isPlain plain rfl) _

theorem newline?_append (plain : ∀ c ∈ cs, needsEscape c = false) (line : '\n' ∉ cs)
    (rest : List Char) : newline? (cs ++ '\'' :: rest) = none := by
  cases cs with
  | nil => rfl
  | cons c cs =>
    refine newline?_of_head (fun same => line (same ▸ List.mem_cons_self)) ?_ _
    rintro rfl
    cases plain _ List.mem_cons_self

theorem string?_basic (two : ∀ more, cs ≠ '"' :: '"' :: more) :
    string? ('"' :: cs) = basic? cs := by
  rw [string?.eq_def]
  split <;> simp_all

theorem string?_literal (two : ∀ more, cs ≠ '\'' :: '\'' :: more) :
    string? ('\'' :: cs) = literal? cs := by
  rw [string?.eq_def]
  split <;> simp_all

theorem escape_append_ne (cs rest more : List Char) :
    escape cs ++ '"' :: '\n' :: rest ≠ '"' :: '"' :: more := by
  rw [escape.eq_def]
  split
  · simp
  · simp
  · simp
  · next c _ _ quote =>
    rcases escapeChar_cases c with ⟨_, written, _⟩ | ⟨_, _, _, _, written, _⟩ | ⟨written, _⟩
    all_goals rw [written]; intro same; have first := (List.cons.inj same).1
    · cases first
    · cases first
    · exact quote first

theorem append_quote_ne (quote : '\'' ∉ cs) (rest more : List Char) :
    cs ++ '\'' :: '\n' :: rest ≠ '\'' :: '\'' :: more := by
  cases cs with
  | nil => simp
  | cons c cs =>
    intro same
    exact quote ((List.cons.inj same).1 ▸ List.mem_cons_self)

theorem string?_writeString (cs rest : List Char) :
    string? (writeString cs ++ '\n' :: rest) = some (cs, '\n' :: rest) := by
  rw [writeString]
  cases form : StringForm.of cs with
  | basic =>
    have read := string?_basic (escape_append_ne cs rest)
    simpa [basic?_escape] using read
  | literal =>
    obtain ⟨plain, quote, line⟩ := of_form_literal form
    have read := string?_literal (append_quote_ne quote rest)
    simpa [literal?_append plain quote line] using read
  | basicLines =>
    have trimmed := trimFirstBreak_firstBreak cs
      fun line => newline?_escapeLines line ('"' :: '"' :: '\n' :: rest)
    have read := basicLines?_escapeLines (Nat.zero_le 2) cs rest
    rw [← trimmed] at read
    simpa [string?] using read
  | literalLines =>
    obtain ⟨plain, few⟩ := of_form_literalLines form
    have trimmed := trimFirstBreak_firstBreak cs
      fun line => newline?_append plain line ('\'' :: '\'' :: '\n' :: rest)
    have read := literalLines?_append plain few rest
    rw [← trimmed] at read
    simpa [string?] using read

end CrossReference.Toml
