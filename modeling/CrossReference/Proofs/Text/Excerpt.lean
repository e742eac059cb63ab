import CrossReference.Text.Excerpt
import Mathlib.Data.List.Chain
import Mathlib.Data.List.Pairwise

set_option autoImplicit false

/-!
# Excerpts are a normal form

White space in an excerpt is single spaces between other characters, so an excerpt collapses to
itself, and taking it once more at the same width changes nothing. A cut may leave a space in front
of the ellipsis, but never one behind it: `excerpt_isExcerpt`.
-/
namespace CrossReference.Text

/-- The words of a text, told apart by white space. -/
def wordsOf (text : String) : List (List Char) :=
  (text.toList.splitOnP isBlank).filter (· ≠ [])

/-- The words of a text with one space between neighbours. -/
def collapsed (text : String) : String := String.ofList ([' '].intercalate (wordsOf text))

theorem wordsFrom_eq (word cs : List Char) :
    wordsFrom word cs = (cs.splitOnPPrepend isBlank word).filter (· ≠ []) := by
  induction cs generalizing word with
  | nil =>
    rw [wordsFrom, List.splitOnPPrepend_nil]
    by_cases empty : word = [] <;> simp [empty]
  | cons c rest ih =>
    rw [wordsFrom, List.splitOnPPrepend_cons_eq_if]
    by_cases blank : isBlank c
    · rw [if_pos blank, if_pos blank, ih, List.splitOnPPrepend_nil_right]
      by_cases empty : word = [] <;> simp [empty]
    · rw [if_neg blank, if_neg blank, ih]

theorem words_eq (text : String) : words text.toList = wordsOf text := wordsFrom_eq [] text.toList

theorem joinWords_cons (w : List Char) {ws : List (List Char)} (more : ws ≠ []) :
    joinWords (w :: ws) = w ++ ' ' :: joinWords ws := by
  cases ws with
  | nil => exact absurd rfl more
  | cons v rest => rfl

theorem joinWords_eq (ws : List (List Char)) : joinWords ws = [' '].intercalate ws := by
  induction ws with
  | nil => rfl
  | cons w rest ih =>
    cases rest with
    | nil => simp [joinWords]
    | cons v more =>
      rw [joinWords_cons w (List.cons_ne_nil v more), ih, List.intercalate_cons_cons,
        List.append_assoc]
      rfl

theorem toList_collapsed (text : String) : (collapsed text).toList = collapse text.toList := by
  rw [collapsed, String.toList_ofList, collapse, words_eq, joinWords_eq]

/-- White space is spaces, none of them at an end or beside another. -/
structure Spaced (cs : List Char) : Prop where
  eq_space : ∀ c ∈ cs, isBlank c → c = ' '
  first : ∀ c ∈ cs.head?, ¬isBlank c
  last : ∀ c ∈ cs.getLast?, ¬isBlank c
  apart : cs.IsChain fun a b => ¬(isBlank a ∧ isBlank b)

theorem spaced_of_letters {w : List Char} (letters : ∀ c ∈ w, ¬isBlank c) : Spaced w where
  eq_space c inside blank := absurd blank (letters c inside)
  first c here := letters c (List.mem_of_mem_head? here)
  last c here := letters c (List.mem_of_mem_getLast? here)
  apart := by
    apply List.Pairwise.isChain
    exact List.pairwise_of_forall_mem_list fun c inside _ _ both => letters c inside both.1

variable {a b cs : List Char} {c : Char}

theorem Spaced.append (left : Spaced a) (right : Spaced b) (ne : a ≠ []) (ne' : b ≠ []) :
    Spaced (a ++ ' ' :: b) where
  eq_space c inside blank := by
    rcases List.mem_append.mp inside with inside | inside
    · exact left.eq_space c inside blank
    · rcases List.mem_cons.mp inside with same | inside
      · exact same
      · exact right.eq_space c inside blank
  first c here := by
    rw [List.head?_append_of_ne_nil _ ne] at here
    exact left.first c here
  last c here := by
    rw [List.getLast?_append_of_ne_nil _ (List.cons_ne_nil _ _),
      List.getLast?_cons_of_ne_nil ne'] at here
    exact right.last c here
  apart := by
    rw [List.isChain_append, List.isChain_cons]
    refine ⟨left.apart, ⟨fun c here both => right.first c here both.2, right.apart⟩, ?_⟩
    exact fun c here _ _ both => left.last c here both.1

theorem Spaced.behind (h : Spaced (a ++ c :: b)) (blank : isBlank c) : Spaced b := by
  have apart := h.apart
  rw [List.isChain_append, List.isChain_cons] at apart
  obtain ⟨_, ⟨beside, apart⟩, _⟩ := apart
  refine ⟨fun d inside => h.eq_space d (by simp [inside]), ?_, ?_, apart⟩
  · exact fun d here blank' => beside d here ⟨blank, blank'⟩
  · intro d here
    apply h.last
    have ne : b ≠ [] := by
      rintro rfl
      cases here
    rwa [List.getLast?_append_of_ne_nil _ (List.cons_ne_nil _ _), List.getLast?_cons_of_ne_nil ne]

theorem Spaced.concat (h : Spaced (a ++ b)) (letter : ¬isBlank c) : Spaced (a ++ [c]) := by
  refine ⟨?_, ?_, ?_, ?_⟩
  · intro d inside blank
    rcases List.mem_append.mp inside with inside | same
    · exact h.eq_space d (List.mem_append_left b inside) blank
    · rw [List.mem_singleton.mp same] at blank
      exact absurd blank letter
  · intro d here
    cases a with
    | nil =>
      cases here
      exact letter
    | cons first rest => exact h.first d here
  · intro d here
    rw [List.getLast?_concat] at here
    cases here
    exact letter
  · rw [List.isChain_append]
    refine ⟨(List.isChain_append.mp h.apart).1, List.isChain_singleton _, ?_⟩
    intro _ _ d here both
    cases here
    exact letter both.2

theorem spaced_joinWords {ws : List (List Char)} (h : ∀ w ∈ ws, IsWord w) :
    Spaced (joinWords ws) := by
  induction ws with
  | nil => exact spaced_of_letters (List.forall_mem_nil _)
  | cons w rest ih =>
    have ⟨nonempty, letters⟩ := h w List.mem_cons_self
    have word : Spaced w := spaced_of_letters fun c inside => by simp [letters c inside]
    have later := ih fun v inside => h v (List.mem_cons_of_mem w inside)
    cases rest with
    | nil => exact word
    | cons v more =>
      have ⟨nonempty', _⟩ := h v (List.mem_cons_of_mem w List.mem_cons_self)
      refine word.append later nonempty ?_
      cases more <;> simp [joinWords, nonempty']

theorem spaced_collapse (cs : List Char) : Spaced (collapse cs) :=
  spaced_joinWords fun _ => isWord_of_mem_words

theorem joinWords_wordsFrom {word : List Char} (letters : ∀ c ∈ word, ¬isBlank c)
    (h : Spaced (word.reverse ++ cs)) : joinWords (wordsFrom word cs) = word.reverse ++ cs := by
  induction cs generalizing word with
  | nil =>
    rw [wordsFrom]
    by_cases empty : word = [] <;> simp [empty, joinWords]
  | cons c rest ih =>
    rw [wordsFrom]
    by_cases blank : isBlank c
    · -- the blank is a space with a word in front of it and more words behind
      have word_ne : word ≠ [] := by
        rintro rfl
        exact h.first c rfl blank
      have rest_ne : rest ≠ [] := by
        rintro rfl
        exact h.last c List.getLast?_concat blank
      have later := @ih [] (List.forall_mem_nil _) (h.behind blank)
      have more : wordsFrom [] rest ≠ [] := fun none => by
        rw [none] at later
        exact rest_ne later.symm
      rw [if_pos blank, if_neg word_ne, joinWords_cons _ more, later,
        h.eq_space c (by simp) blank]
      rfl
    · rw [if_neg blank]
      have read := @ih (c :: word) ?_ ?_
      · simpa using read
      · intro d inside
        rcases List.mem_cons.mp inside with same | inside
        · rwa [same]
        · exact letters d inside
      · simpa using h

theorem collapse_of_spaced (h : Spaced cs) : collapse cs = cs :=
  joinWords_wordsFrom (List.forall_mem_nil _) h

theorem excerpt_of_le {text : String} {width : Nat} (fits : (collapsed text).length ≤ width) :
    excerpt text width = collapsed text := by
  rw [← String.length_toList, toList_collapsed] at fits
  rw [excerpt, if_pos fits, ← toList_collapsed, String.ofList_toList]

theorem excerpt_of_lt {text : String} {width : Nat} (long : width < (collapsed text).length) :
    ∃ cut rest : String, collapsed text = cut ++ rest ∧ rest ≠ "" ∧ cut.length = width - 1 ∧
      excerpt text width = cut ++ "…" := by
  rw [← String.length_toList] at long
  have split := List.take_append_drop (width - 1) (collapsed text).toList
  have cut : ((collapsed text).toList.take (width - 1)).length = width - 1 := by
    rw [List.length_take]
    omega
  have rest : (collapsed text).toList.drop (width - 1) ≠ [] := by
    rw [List.ne_nil_iff_length_pos, List.length_drop]
    omega
  refine ⟨String.ofList ((collapsed text).toList.take (width - 1)),
    String.ofList ((collapsed text).toList.drop (width - 1)), ?_, ?_, ?_, ?_⟩
  · rw [← String.ofList_append, split, String.ofList_toList]
  · rwa [ne_eq, String.ofList_eq_empty_iff]
  · rw [String.length_ofList, cut]
  · rw [toList_collapsed] at long ⊢
    rw [excerpt, if_neg (Nat.not_le.mpr long), String.ofList_append]

theorem spaced_excerpt (text : String) (width : Nat) : Spaced (excerpt text width).toList := by
  have spaced := spaced_collapse text.toList
  rcases Nat.lt_or_ge width (collapsed text).length with long | fits
  · obtain ⟨cut, rest, split, -, -, eq⟩ := excerpt_of_lt long
    rw [← toList_collapsed, split, String.toList_append] at spaced
    rw [eq, String.toList_append]
    exact spaced.concat (by decide)
  · rwa [excerpt_of_le fits, toList_collapsed]

theorem length_excerpt_of_pos (text : String) {width : Nat} (pos : 0 < width) :
    (excerpt text width).length ≤ width := by
  rcases Nat.lt_or_ge width (collapsed text).length with long | fits
  · obtain ⟨cut, rest, -, -, length, eq⟩ := excerpt_of_lt long
    rw [eq, String.length_append, length]
    show width - 1 + 1 ≤ width
    omega
  · rwa [excerpt_of_le fits]

theorem collapsed_eq_empty_iff (text : String) : collapsed text = "" ↔ wordsOf text = [] := by
  constructor
  · intro empty
    rw [← String.toList_eq_nil_iff, toList_collapsed] at empty
    have same := words_collapse text.toList
    rw [empty, words_eq] at same
    exact same.symm
  · intro none
    rw [collapsed, none]
    rfl

/-- No width is too small for the ellipsis, so at width zero it stands for all words there are. -/
theorem excerpt_zero {text : String} (some : wordsOf text ≠ []) : excerpt text 0 = "…" := by
  have long : 0 < (collapsed text).length := by
    rw [Nat.pos_iff_ne_zero, ne_eq, String.length_eq_zero_iff, collapsed_eq_empty_iff]
    exact some
  obtain ⟨cut, rest, -, -, length, eq⟩ := excerpt_of_lt long
  rw [eq, String.length_eq_zero_iff.mp length]
  rfl

theorem length_excerpt_le_iff (text : String) (width : Nat) :
    (excerpt text width).length ≤ width ↔ 0 < width ∨ wordsOf text = [] := by
  constructor
  · intro fits
    by_contra other
    obtain ⟨zero, some⟩ := not_or.mp other
    obtain rfl := Nat.eq_zero_of_not_pos zero
    rw [excerpt_zero some] at fits
    exact absurd fits (by decide)
  · rintro (pos | none)
    · exact length_excerpt_of_pos text pos
    · have empty := (collapsed_eq_empty_iff text).mpr none
      rw [excerpt_of_le] <;> rw [empty] <;> exact Nat.zero_le width

/-- What an excerpt of a text is at a width. -/
structure IsExcerpt (text : String) (width : Nat) (shown : String) : Prop where
  spaced : Spaced shown.toList
  stable : excerpt shown width = shown
  of_words : ∀ other, wordsOf other = wordsOf text → excerpt other width = shown
  whole_or_cut : (collapsed text).length ≤ width ∧ shown = collapsed text ∨
    width < (collapsed text).length ∧ ∃ cut rest : String, collapsed text = cut ++ rest ∧
      rest ≠ "" ∧ cut.length = width - 1 ∧ shown = cut ++ "…"

theorem excerpt_isExcerpt (text : String) (width : Nat) :
    IsExcerpt text width (excerpt text width) where
  spaced := spaced_excerpt text width
  stable := by
    have whole : collapsed (excerpt text width) = excerpt text width := by
      rw [← String.toList_inj, toList_collapsed]
      exact collapse_of_spaced (spaced_excerpt text width)
    by_cases fits : (excerpt text width).length ≤ width
    · rw [excerpt_of_le (whole.symm ▸ fits), whole]
    · -- only the ellipsis at width zero is longer than the width
      rw [length_excerpt_le_iff, not_or] at fits
      obtain rfl := Nat.eq_zero_of_not_pos fits.1
      rw [excerpt_zero fits.2]
      decide
  of_words other same := by
    simp only [excerpt, collapse, words_eq, same]
  whole_or_cut := by
    rcases Nat.lt_or_ge width (collapsed text).length with long | fits
    · exact .inr ⟨long, excerpt_of_lt long⟩
    · exact .inl ⟨fits, excerpt_of_le fits⟩

theorem excerpt_isExcerpt_cutAtSpace :
    wordsOf "f(x)  +\n1 " = wordsOf " f(x)\t+ 1" ∧ excerpt " f(x)\t+ 1" 6 = "f(x) …" ∧
      excerpt "f(x)  +\n1 " 6 = "f(x) …" ∧ excerpt "f(x) …" 6 = "f(x) …" := by
  have same : wordsOf "f(x)  +\n1 " = wordsOf " f(x)\t+ 1" := by decide +kernel
  have shown : excerpt " f(x)\t+ 1" 6 = "f(x) …" := by decide +kernel
  have isExcerpt := excerpt_isExcerpt " f(x)\t+ 1" 6
  rw [shown] at isExcerpt
  exact ⟨same, shown, isExcerpt.of_words _ same, isExcerpt.stable⟩

end CrossReference.Text
