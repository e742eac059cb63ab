set_option autoImplicit false

/-!
# White space and words

A word is a longest run of characters that are not white space. White space is the Unicode property
White_Space, stable since version 6.3.
-/
namespace CrossReference.Text

def inRanges (ranges : List (Nat × Nat)) (n : Nat) : Bool := ranges.any fun r => r.1 ≤ n && n ≤ r.2

def blankRanges : List (Nat × Nat) :=
  [(0x09, 0x0D), (0x20, 0x20), (0x85, 0x85), (0xA0, 0xA0), (0x1680, 0x1680), (0x2000, 0x200A),
   (0x2028, 0x2029), (0x202F, 0x202F), (0x205F, 0x205F), (0x3000, 0x3000)]

def isBlank (c : Char) : Bool := inRanges blankRanges c.toNat

def IsWord (w : List Char) : Prop := w ≠ [] ∧ ∀ c ∈ w, isBlank c = false

/-- Reads words from the left; `word` holds the word being read, last letter first. -/
def wordsFrom (word : List Char) : List Char → List (List Char)
  | [] => if word = [] then [] else [word.reverse]
  | c :: rest =>
    if isBlank c then
      if word = [] then wordsFrom [] rest else word.reverse :: wordsFrom [] rest
    else wordsFrom (c :: word) rest

def words (cs : List Char) : List (List Char) := wordsFrom [] cs

def joinWords : List (List Char) → List Char
  | [] => []
  | [w] => w
  | w :: rest => w ++ ' ' :: joinWords rest

def collapse (cs : List Char) : List Char := joinWords (words cs)

theorem isWord_of_mem_wordsFrom {word cs w : List Char} (letters : ∀ c ∈ word, isBlank c = false)
    (h : w ∈ wordsFrom word cs) : IsWord w := by
  have last : ∀ u : List Char, u ≠ [] → (∀ c ∈ u, isBlank c = false) → IsWord u.reverse :=
    fun u nonempty blank =>
      ⟨by simpa using nonempty, fun c inside => blank c (List.mem_reverse.1 inside)⟩
  induction cs generalizing word with
  | nil =>
    unfold wordsFrom at h
    split at h
    · cases h
    · next nonempty => rw [List.mem_singleton.1 h]; exact last word nonempty letters
  | cons c rest ih =>
    unfold wordsFrom at h
    split at h
    · split at h
      · exact ih (fun _ inside => absurd inside List.not_mem_nil) h
      · next nonempty =>
        rcases List.mem_cons.1 h with eq | h
        · rw [eq]; exact last word nonempty letters
        · exact ih (fun _ inside => absurd inside List.not_mem_nil) h
    · next letter =>
      refine ih (fun d inside => ?_) h
      rcases List.mem_cons.1 inside with eq | inside
      · rw [eq]; simpa using letter
      · exact letters d inside

theorem isWord_of_mem_words {cs w : List Char} (h : w ∈ words cs) : IsWord w :=
  isWord_of_mem_wordsFrom (fun _ inside => absurd inside List.not_mem_nil) h

theorem wordsFrom_append {word w : List Char} (rest : List Char)
    (letters : ∀ c ∈ w, isBlank c = false) :
    wordsFrom word (w ++ rest) = wordsFrom (w.reverse ++ word) rest := by
  induction w generalizing word with
  | nil => rfl
  | cons c w ih =>
    have letter : isBlank c = false := letters c List.mem_cons_self
    rw [List.cons_append, wordsFrom, letter, if_neg Bool.false_ne_true,
      ih fun d inside => letters d (List.mem_cons_of_mem c inside), List.reverse_cons,
      List.append_assoc]
    rfl

theorem words_joinWords {ws : List (List Char)} (h : ∀ w ∈ ws, IsWord w) :
    words (joinWords ws) = ws := by
  induction ws with
  | nil => rfl
  | cons w rest ih =>
    have ⟨nonempty, letters⟩ := h w List.mem_cons_self
    have reversed : w.reverse ++ [] ≠ [] := by simpa using nonempty
    have later := ih fun v inside => h v (List.mem_cons_of_mem w inside)
    cases rest with
    | nil =>
      have read : wordsFrom [] (w ++ []) = wordsFrom (w.reverse ++ []) [] :=
        wordsFrom_append [] letters
      rw [List.append_nil] at read
      rw [words, joinWords, read, wordsFrom, if_neg reversed]
      simp
    | cons v more =>
      have space : isBlank ' ' = true := by decide
      show wordsFrom [] (w ++ ' ' :: joinWords (v :: more)) = w :: v :: more
      rw [wordsFrom_append _ letters, wordsFrom, space, if_pos rfl, if_neg reversed]
      simpa [words] using later

theorem words_collapse (cs : List Char) : words (collapse cs) = words cs :=
  words_joinWords fun _ h => isWord_of_mem_words h

end CrossReference.Text
