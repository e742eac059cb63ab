import CrossReference.Proofs.Text.Numeral
import CrossReference.Proofs.Toml.Strings
import CrossReference.Toml.Document

set_option autoImplicit false

/-!
# Written documents are read back

A document of tables under headings, with a line for each key, gives those tables:
`parse?_of_writeTables?`.
-/
namespace CrossReference.Toml

open Text

def Setting.toToml : Setting → Toml
  | .text value => .string value
  | .flag value => .bool value
  | .number value => .integer value

variable {c : Char} {cs rest : List Char} {key : String} {setting : Setting} {steps depth : Nat}

def IsBare (key : String) : Prop := key.toList ≠ [] ∧ ∀ c ∈ key.toList, isKeyChar c = true

instance (key : String) : Decidable (IsBare key) :=
  decidable_of_iff (key.toList ≠ [] ∧ key.toList.all isKeyChar) (by simp [IsBare])

theorem ne_of_isKeyChar {d : Char} (h : isKeyChar c = true) (other : isKeyChar d = false) :
    c ≠ d := by
  rintro rfl
  rw [other] at h
  cases h

theorem skipSpace_cons (h : isSpace c = false) (cs : List Char) :
    skipSpace (c :: cs) = c :: cs := by
  simp [skipSpace, h]

theorem isSpace_of_isKeyChar (h : isKeyChar c = true) : isSpace c = false := by
  have blank := ne_of_isKeyChar h (d := ' ') rfl
  have tab := ne_of_isKeyChar h (d := '\t') rfl
  simp [isSpace, blank, tab]

theorem key?_bare (bare : IsBare key) (stop : isKeyChar c = false) (rest : List Char) :
    key? (key.toList ++ c :: rest) = some (key.toList, c :: rest) := by
  obtain ⟨nonempty, all⟩ := bare
  have word : (key.toList ++ c :: rest).takeWhile isKeyChar = key.toList := by
    rw [List.takeWhile_append_of_pos all, List.takeWhile_cons_of_neg (by simp [stop]),
      List.append_nil]
  have behind : (key.toList ++ c :: rest).dropWhile isKeyChar = c :: rest := by
    rw [List.dropWhile_append_of_pos all, List.dropWhile_cons_of_neg (by simp [stop])]
  generalize key.toList = word' at *
  obtain ⟨d, ds, rfl⟩ := List.exists_cons_of_ne_nil nonempty
  have first := all d List.mem_cons_self
  have double := ne_of_isKeyChar first (d := '"') rfl
  have single := ne_of_isKeyChar first (d := '\'') rfl
  rw [key?.eq_def]
  split <;> simp_all

theorem path?_bare (bare : IsBare key) (stop : isKeyChar c = false)
    (dot : (skipSpace (c :: rest)).head? ≠ some '.') :
    path? (depth + 1) (key.toList ++ c :: rest) = some ([key], skipSpace (c :: rest)) := by
  have start : skipSpace (key.toList ++ c :: rest) = key.toList ++ c :: rest := by
    obtain ⟨nonempty, all⟩ := bare
    generalize key.toList = word at *
    obtain ⟨d, ds, rfl⟩ := List.exists_cons_of_ne_nil nonempty
    exact skipSpace_cons (isSpace_of_isKeyChar (all d List.mem_cons_self)) _
  rw [path?, start, key?_bare bare stop]
  simp only [Option.bind_eq_bind, Option.bind_some]
  split
  · next same =>
    rw [same] at dot
    exact absurd rfl dot
  · rw [String.ofList_toList]

theorem digitRun?_of_all (nonempty : cs ≠ []) (all : ∀ c ∈ cs, c.isDigit) :
    digitRun? Char.isDigit cs = some (cs, []) := by
  induction cs with
  | nil => exact absurd rfl nonempty
  | cons c cs ih =>
    have first := all c List.mem_cons_self
    cases cs with
    | nil => simp [digitRun?, first]
    | cons d more =>
      have second := all d (by simp)
      have score : d ≠ '_' := by rintro rfl; cases second
      have later := ih (List.cons_ne_nil _ _) fun e he => all e (List.mem_cons_of_mem _ he)
      rw [digitRun?.eq_def]
      split <;> simp_all [prepend]

theorem decimalRun?_write (n : Nat) :
    decimalRun? (Decimal.write n) = some (Decimal.write n, []) := by
  have all : ∀ c ∈ Decimal.write n, c.isDigit := fun c hc => Decimal.isDigit_of_mem_write hc
  rw [decimalRun?, digitRun?_of_all (Decimal.write_ne_nil n) all]
  simp only [Option.bind_eq_bind, Option.bind_some]
  split
  · next zero =>
    have single := (Decimal.shortest_write n).2 (by rw [zero]; rfl)
    rw [zero] at single
    cases single
  · rfl

theorem integer?_write {n : Nat} (small : n < integerBound) :
    integer? (Decimal.write n) = some (n : Int) := by
  have noLetter (mark : Char) (more : List Char) (letter : mark.isDigit = false) :
      Decimal.write n ≠ '0' :: mark :: more := by
    intro same
    have digit := Decimal.isDigit_of_mem_write (n := n) (c := mark) (by simp [same])
    rw [letter] at digit
    cases digit
  have unsigned : sign (Decimal.write n) = (false, Decimal.write n) := by
    rw [sign.eq_def]
    split
    · next same =>
      exact absurd (Decimal.isDigit_of_mem_write (n := n) (c := '-') (by simp [same])) (by decide)
    · next same =>
      exact absurd (Decimal.isDigit_of_mem_write (n := n) (c := '+') (by simp [same])) (by decide)
    · rfl
  have value : Nat.ofDigitChars 10 (Decimal.write n) 0 = n := Nat.ofDigitChars_ten_toDigits
  rw [integer?.eq_def]
  split
  · next same => exact absurd same (noLetter _ _ rfl)
  · next same => exact absurd same (noLetter _ _ rfl)
  · next same => exact absurd same (noLetter _ _ rfl)
  · simp only [unsigned, decimalRun?_write]
    simp [value, inRange]
    omega

theorem word_of_all (all : ∀ c ∈ cs, isWordChar c = true) (rest : List Char) :
    word (cs ++ '\n' :: rest) = (cs, '\n' :: rest) := by
  have first : (cs ++ '\n' :: rest).takeWhile isWordChar = cs := by
    rw [List.takeWhile_append_of_pos all, List.takeWhile_cons_of_neg (by decide), List.append_nil]
  have behind : (cs ++ '\n' :: rest).dropWhile isWordChar = '\n' :: rest := by
    rw [List.dropWhile_append_of_pos all, List.dropWhile_cons_of_neg (by decide)]
  rw [word, first, behind]
  rfl

theorem value?_word (nonempty : cs ≠ []) (all : ∀ c ∈ cs, isWordChar c = true) {v : Toml}
    (known : ofWord? cs = some v) (rest : List Char) :
    value? depth (cs ++ '\n' :: rest) = some (v, '\n' :: rest) := by
  have other (mark : Char) (no : isWordChar mark = false) (more : List Char) :
      cs ++ '\n' :: rest ≠ mark :: more := by
    obtain ⟨d, ds, rfl⟩ := List.exists_cons_of_ne_nil nonempty
    intro same
    have letter := all d List.mem_cons_self
    rw [(List.cons.inj same).1, no] at letter
    cases letter
  rw [value?.eq_def]
  dsimp only
  split
  · next same => exact absurd same (other _ rfl _)
  · next same => exact absurd same (other _ rfl _)
  · next same => exact absurd same (other _ rfl _)
  · next same => exact absurd same (other _ rfl _)
  · rw [word_of_all all]
    simp [known]

theorem isWordChar_of_isDigit (h : c.isDigit) : isWordChar c = true := by
  simp [isWordChar, Char.isAlphanum, h]

theorem ofWord?_write {n : Nat} (small : n < integerBound) :
    ofWord? (Decimal.write n) = some (.integer n) := by
  have noWord (w : List Char) (first : (w.head?.any Char.isDigit) = false) :
      Decimal.write n ≠ w := by
    rintro rfl
    obtain ⟨d, ds, digits⟩ := List.exists_cons_of_ne_nil (Decimal.write_ne_nil n)
    have digit := Decimal.isDigit_of_mem_write (n := n) (c := d) (by simp [digits])
    simp [digits, digit] at first
  rw [ofWord?, if_neg (noWord _ rfl), if_neg (noWord _ rfl), integer?_write small]

theorem writeString_starts (cs : List Char) :
    ∃ more, writeString cs = '"' :: more ∨ writeString cs = '\'' :: more := by
  rw [writeString]
  cases StringForm.of cs
  all_goals first | exact ⟨_, .inl rfl⟩ | exact ⟨_, .inr rfl⟩

theorem value?_write? {written : List Char} (h : setting.write? = some written) (rest : List Char) :
    value? depth (written ++ '\n' :: rest) = some (setting.toToml, '\n' :: rest) := by
  cases setting with
  | text s =>
    cases h
    have read := string?_writeString s.toList rest
    obtain ⟨more, starts⟩ := writeString_starts s.toList
    rcases starts with starts | starts
    all_goals
      rw [starts] at read ⊢
      rw [List.cons_append] at read ⊢
      rw [value?.eq_def]
      simp only [read, Option.map_some, String.ofList_toList]
      rfl
  | flag b =>
    cases b
    all_goals
      cases h
      exact value?_word (by decide) (List.all_eq_true.mp (by decide +kernel)) rfl rest
  | number n =>
    rw [Setting.write?] at h
    split at h
    · next small =>
      cases h
      exact value?_word (Decimal.write_ne_nil n)
        (fun c hc => isWordChar_of_isDigit (Decimal.isDigit_of_mem_write hc)) (ofWord?_write small)
        rest
    · cases h

theorem skipAllLines_cons (space : isSpace c = false) (comment : c ≠ '#') (line : c ≠ '\n')
    (ret : c ≠ '\r') (cs : List Char) : skipAllLines (c :: cs) = c :: cs := by
  have noComment : skipComment (c :: cs) = c :: cs := by
    rw [skipComment.eq_def]
    split <;> simp_all
  rw [skipAllLines, List.length_cons, skipLines, skipSpace_cons space, noComment]
  simp only [newline?_of_head line ret]

theorem skipAllLines_of_isKeyChar (h : isKeyChar c = true) (cs : List Char) :
    skipAllLines (c :: cs) = c :: cs :=
  skipAllLines_cons (isSpace_of_isKeyChar h) (ne_of_isKeyChar h rfl) (ne_of_isKeyChar h rfl)
    (ne_of_isKeyChar h rfl) cs

theorem skipAllLines_newline (cs : List Char) : skipAllLines ('\n' :: cs) = skipAllLines cs := rfl

theorem lineEnd?_newline (rest : List Char) : lineEnd? ('\n' :: rest) = some rest := rfl

/-- A text gives these pairs and sections, however many steps more than its characters there are. -/
def Gives (cs : List Char) (pairs : List Pair) (sections : List Section) : Prop :=
  ∀ steps, cs.length < steps → lines? steps cs = some (pairs, sections)

theorem gives_nil : Gives [] [] [] := by
  intro steps enough
  cases steps with
  | zero => cases enough
  | succ steps => rfl

variable {pairs : List Pair} {sections : List Section}

theorem Gives.newline (h : Gives rest pairs sections) : Gives ('\n' :: rest) pairs sections := by
  intro steps enough
  have same := h steps (Nat.lt_of_succ_lt enough)
  cases steps with
  | zero => cases enough
  | succ steps =>
    rw [lines?, skipAllLines_newline]
    rwa [lines?] at same

theorem write?_starts {written : List Char} (h : setting.write? = some written) :
    ∃ c cs, written = c :: cs ∧ isSpace c = false := by
  cases setting with
  | text s =>
    cases h
    obtain ⟨more, starts | starts⟩ := writeString_starts s.toList
    · exact ⟨_, _, starts, rfl⟩
    · exact ⟨_, _, starts, rfl⟩
  | flag b => cases b <;> cases h <;> exact ⟨_, _, rfl, rfl⟩
  | number n =>
    rw [Setting.write?] at h
    split at h
    · cases h
      obtain ⟨c, cs, digits⟩ := List.exists_cons_of_ne_nil (Decimal.write_ne_nil n)
      have digit := Decimal.isDigit_of_mem_write (n := n) (c := c) (by simp [digits])
      exact ⟨c, cs, digits, isSpace_of_isKeyChar (by simp [isKeyChar, Char.isAlphanum, digit])⟩
    · cases h

theorem pair?_write? (bare : IsBare key) {written : List Char}
    (h : setting.write? = some written) (rest : List Char) :
    pair? (value? nestingLimit) (key.toList ++ ' ' :: '=' :: ' ' :: (written ++ '\n' :: rest)) =
      some (⟨[], key, setting.toToml⟩, '\n' :: rest) := by
  have path : path? nestingLimit (key.toList ++ ' ' :: '=' :: ' ' :: (written ++ '\n' :: rest)) =
      some ([key], '=' :: ' ' :: (written ++ '\n' :: rest)) :=
    path?_bare bare (c := ' ') rfl (by exact nofun)
  have value : skipSpace (' ' :: (written ++ '\n' :: rest)) = written ++ '\n' :: rest := by
    obtain ⟨c, cs, rfl, space⟩ := write?_starts h
    exact skipSpace_cons space _
  rw [pair?, path]
  simp only [Option.bind_eq_bind, Option.bind_some, splitPath?, List.getLast?_singleton,
    Option.map_some, List.dropLast_singleton, value, value?_write? h]
  rfl

theorem Gives.pair (h : Gives rest pairs sections) (bare : IsBare key) {line : List Char}
    (written : writePair? key setting = some line) :
    Gives (line ++ rest) (⟨[], key, setting.toToml⟩ :: pairs) sections := by
  obtain ⟨value, valueWritten, rfl⟩ := Option.map_eq_some_iff.mp written
  intro steps enough
  cases steps with
  | zero => cases enough
  | succ steps =>
    have later := h steps (by simp at enough; omega)
    have read := pair?_write? bare valueWritten rest
    obtain ⟨nonempty, all⟩ := bare
    simp only [List.append_assoc, List.cons_append, List.nil_append]
    generalize key.toList = word at *
    obtain ⟨d, ds, rfl⟩ := List.exists_cons_of_ne_nil nonempty
    have first := all d List.mem_cons_self
    rw [List.cons_append] at read ⊢
    rw [lines?, skipAllLines_of_isKeyChar first]
    split
    · next same => cases same
    · next same => exact absurd (List.cons.inj same).1 (ne_of_isKeyChar first rfl)
    · simp only [read, Option.bind_eq_bind, Option.bind_some, lineEnd?_newline, later]
      rfl

theorem heading?_bare (bare : IsBare key) (rest : List Char) :
    heading? ('[' :: (key.toList ++ ']' :: rest)) = some ((false, [key]), rest) := by
  have path : path? nestingLimit (key.toList ++ ']' :: rest) = some ([key], ']' :: rest) :=
    path?_bare bare (c := ']') rfl (by exact nofun)
  have single (more : List Char) : key.toList ++ ']' :: rest ≠ '[' :: more := by
    obtain ⟨nonempty, all⟩ := bare
    generalize key.toList = word at *
    obtain ⟨d, ds, rfl⟩ := List.exists_cons_of_ne_nil nonempty
    exact fun same => ne_of_isKeyChar (all d List.mem_cons_self) rfl (List.cons.inj same).1
  rw [heading?.eq_def]
  split
  · next same => exact absurd (List.cons.inj same).2 (single _)
  · next same =>
    cases same
    simp only [path, Option.bind_eq_bind, Option.bind_some]
  · next other => exact absurd rfl (other _)

theorem Gives.heading (h : Gives rest pairs sections) (bare : IsBare key) :
    Gives ('[' :: (key.toList ++ ']' :: '\n' :: rest)) []
      (⟨false, [], key, pairs⟩ :: sections) := by
  intro steps enough
  cases steps with
  | zero => cases enough
  | succ steps =>
    have later := h steps (by simp at enough; omega)
    rw [lines?, skipAllLines_cons rfl (by decide) (by decide) (by decide)]
    simp only [heading?_bare bare, Option.bind_eq_bind, Option.bind_some, splitPath?,
      List.getLast?_singleton, Option.map_some, List.dropLast_singleton, lineEnd?_newline, later]
    rfl

def pairOf (pair : String × Setting) : Pair := ⟨[], pair.1, pair.2.toToml⟩

theorem Gives.lines (h : Gives rest pairs sections) {table : List (String × Setting)}
    (bare : ∀ pair ∈ table, IsBare pair.1) {lines : List (List Char)}
    (written : (table.mapM fun (key, s) => writePair? key s) = some lines) :
    Gives (lines.flatten ++ rest) (table.map pairOf ++ pairs) sections := by
  induction table generalizing lines with
  | nil =>
    cases written
    exact h
  | cons first more ih =>
    rw [List.mapM_cons] at written
    obtain ⟨line, lineWritten, written⟩ := Option.bind_eq_some_iff.mp written
    obtain ⟨later, laterWritten, same⟩ := Option.bind_eq_some_iff.mp written
    cases same
    rw [List.flatten_cons, List.append_assoc]
    exact (ih (fun pair hp => bare pair (List.mem_cons_of_mem _ hp)) laterWritten).pair
      (bare first List.mem_cons_self) lineWritten

def sectionOf (table : String × List (String × Setting)) : Section :=
  ⟨false, [], table.1, table.2.map pairOf⟩

theorem Gives.table (h : Gives rest [] sections) {table : String × List (String × Setting)}
    (bare : IsBare table.1 ∧ ∀ pair ∈ table.2, IsBare pair.1)
    (written : writeTable? table.1 table.2 = some cs) :
    Gives (cs ++ rest) [] (sectionOf table :: sections) := by
  obtain ⟨lines, linesWritten, same⟩ := Option.bind_eq_some_iff.mp written
  cases same
  have given := (h.lines bare.2 linesWritten).heading bare.1
  simpa [sectionOf] using given

theorem gives_of_writeTables? {tables : List (String × List (String × Setting))}
    (bare : ∀ table ∈ tables, IsBare table.1 ∧ ∀ pair ∈ table.2, IsBare pair.1)
    (written : writeTables? tables = some cs) : Gives cs [] (tables.map sectionOf) := by
  obtain ⟨texts, textsWritten, same⟩ := Option.bind_eq_some_iff.mp written
  cases same
  clear written
  induction tables generalizing texts with
  | nil =>
    cases textsWritten
    exact gives_nil
  | cons first more ih =>
    rw [List.mapM_cons] at textsWritten
    obtain ⟨text, textWritten, rest⟩ := Option.bind_eq_some_iff.mp textsWritten
    obtain ⟨later, laterWritten, same⟩ := Option.bind_eq_some_iff.mp rest
    cases same
    have given := ih (fun table ht => bare table (List.mem_cons_of_mem _ ht)) later laterWritten
    have firstBare := bare first List.mem_cons_self
    cases later with
    | nil =>
      simpa using given.table firstBare textWritten
    | cons second others =>
      simpa using given.newline.table firstBare textWritten

variable {behind : List Char}

theorem pair?_starts {value : List Char → Option (Toml × List Char)} {p : Pair}
    (h : pair? value cs = some (p, behind)) : cs ≠ [] ∧ cs.head? ≠ some '[' := by
  constructor
  · rintro rfl
    cases h
  · intro opens
    obtain ⟨more, rfl⟩ := List.head?_eq_some_iff.mp opens
    cases h

theorem of_lines?_nil (here : skipAllLines cs = [])
    (read : lines? steps cs = some (pairs, sections)) : pairs = [] ∧ sections = [] := by
  cases steps with
  | zero => cases read
  | succ steps =>
    rw [lines?, here] at read
    cases read
    exact ⟨rfl, rfl⟩

theorem of_lines?_pair {p : Pair}
    (here : pair? (value? nestingLimit) (skipAllLines cs) = some (p, behind))
    (ends : lineEnd? behind = some rest) (read : lines? steps cs = some (pairs, sections)) :
    ∃ fewer later, lines? fewer rest = some (later, sections) ∧ pairs = p :: later := by
  cases steps with
  | zero => cases read
  | succ steps =>
    obtain ⟨nonempty, closed⟩ := pair?_starts here
    rw [lines?] at read
    split at read
    · next same => exact absurd same nonempty
    · next same => exact absurd (by rw [same]; rfl) closed
    · simp only [here, Option.bind_eq_bind, Option.bind_some, ends] at read
      obtain ⟨⟨later, _⟩, found, same⟩ := Option.bind_eq_some_iff.mp read
      cases same
      exact ⟨steps, later, found, rfl⟩

theorem heading?_starts {found : Bool × List String}
    (h : heading? cs = some (found, behind)) : ∃ more, cs = '[' :: more := by
  rw [heading?.eq_def] at h
  split at h
  · exact ⟨_, rfl⟩
  · exact ⟨_, rfl⟩
  · cases h

theorem eq_of_splitPath? {keys path : List String} (h : splitPath? keys = some (path, key)) :
    keys = path ++ [key] := by
  obtain ⟨last, found, same⟩ := Option.map_eq_some_iff.mp h
  cases same
  obtain ⟨front, rfl⟩ := List.getLast?_eq_some_iff.mp found
  rw [List.dropLast_concat]

theorem of_lines?_heading {repeated : Bool} {keys : List String}
    (here : heading? (skipAllLines cs) = some ((repeated, keys), behind))
    (ends : lineEnd? behind = some rest) (read : lines? steps cs = some (pairs, sections)) :
    pairs = [] ∧ ∃ fewer path key below later, keys = path ++ [key] ∧
      lines? fewer rest = some (below, later) ∧
      sections = ⟨repeated, path, key, below⟩ :: later := by
  cases steps with
  | zero => cases read
  | succ steps =>
    obtain ⟨more, opens⟩ := heading?_starts here
    rw [lines?, opens] at read
    rw [opens] at here
    simp only [here, Option.bind_eq_bind, Option.bind_some, ends] at read
    obtain ⟨⟨path, key⟩, parted, read⟩ := Option.bind_eq_some_iff.mp read
    obtain ⟨⟨below, later⟩, found, same⟩ := Option.bind_eq_some_iff.mp read
    cases same
    exact ⟨rfl, steps, path, key, below, later, eq_of_splitPath? parted, found, rfl⟩

theorem put_of_fresh {entries : Entries} {e : Entry} (fresh : entries.get? key = none) :
    entries.put key e = entries ++ [(key, e)] := by
  induction entries with
  | nil => rfl
  | cons first more ih =>
    simp only [Entries.get?, List.lookup_eq_none_iff] at fresh ih
    have differs : first.1 ≠ key := fun same => by
      simpa [same] using fresh first List.mem_cons_self
    rw [Entries.put, if_neg differs, ih fun pair hp => fresh pair (List.mem_cons_of_mem _ hp)]
    rfl

theorem get?_concat {entries : Entries} {e : Entry} {other : String} (h : entries.get? key = none)
    (differs : key ≠ other) : Entries.get? (entries ++ [(other, e)]) key = none := by
  simp only [Entries.get?, List.lookup_eq_none_iff, List.mem_append, List.mem_singleton] at h ⊢
  rintro pair (old | rfl)
  · exact h pair old
  · simpa using differs

def entriesOf (table : List (String × Setting)) : Entries :=
  table.map fun pair => (pair.1, .value pair.2.toToml)

theorem addPairs_pairOf {table : List (String × Setting)} {entries : Entries}
    (nodup : (table.map Prod.fst).Nodup) (fresh : ∀ pair ∈ table, entries.get? pair.1 = none) :
    addPairs entries (table.map pairOf) = some (entries ++ entriesOf table) := by
  induction table generalizing entries with
  | nil => simp [addPairs, entriesOf]
  | cons first more ih =>
    rw [List.map_cons, List.nodup_cons] at nodup
    have here := fresh first List.mem_cons_self
    have added : addPair first.1 first.2.toToml [] entries =
        some (entries ++ [(first.1, .value first.2.toToml)]) := by
      rw [addPair, here]
      exact congrArg some (put_of_fresh here)
    have later : ∀ pair ∈ more,
        Entries.get? (entries ++ [(first.1, .value first.2.toToml)]) pair.1 = none := by
      intro pair hp
      apply get?_concat (fresh pair (List.mem_cons_of_mem _ hp))
      intro same
      exact nodup.1 (same ▸ List.mem_map_of_mem hp)
    rw [addPairs, List.map_cons, List.foldlM_cons]
    show (addPair first.1 first.2.toToml [] entries).bind _ = _
    rw [added]
    exact (ih nodup.2 later).trans (by simp [entriesOf])

theorem addSections_sectionOf {tables : List (String × List (String × Setting))} {entries : Entries}
    (nodup : (tables.map Prod.fst).Nodup) (keys : ∀ table ∈ tables, (table.2.map Prod.fst).Nodup)
    (fresh : ∀ table ∈ tables, entries.get? table.1 = none) :
    (tables.map sectionOf).foldlM (fun entries s => changeAt s.addTo s.path entries) entries =
      some (entries ++ tables.map fun t => (t.1, .table false false (entriesOf t.2))) := by
  induction tables generalizing entries with
  | nil => simp
  | cons first more ih =>
    rw [List.map_cons, List.nodup_cons] at nodup
    have here := fresh first List.mem_cons_self
    have inner : addPairs [] (first.2.map pairOf) = some ([] ++ entriesOf first.2) :=
      addPairs_pairOf (keys first List.mem_cons_self) fun _ _ => rfl
    have added : (sectionOf first).addTo entries =
        some (entries ++ [(first.1, .table false false (entriesOf first.2))]) := by
      rw [Section.addTo, sectionOf]
      simp only [here, inner, Option.map_some, List.nil_append, put_of_fresh here]
    have later : ∀ table ∈ more, Entries.get?
        (entries ++ [(first.1, .table false false (entriesOf first.2))]) table.1 = none := by
      intro table ht
      apply get?_concat (fresh table (List.mem_cons_of_mem _ ht))
      intro same
      exact nodup.1 (same ▸ List.mem_map_of_mem ht)
    rw [List.map_cons, List.foldlM_cons]
    show ((sectionOf first).addTo entries).bind _ = _
    rw [added]
    have rest := ih nodup.2 (fun table ht => keys table (List.mem_cons_of_mem _ ht)) later
    exact rest.trans (by simp)

theorem entriesToToml_entriesOf (table : List (String × Setting)) :
    entriesToToml (entriesOf table) = table.map fun pair => (pair.1, pair.2.toToml) := by
  induction table with
  | nil => simp [entriesOf, entriesToToml]
  | cons first more ih => simpa [entriesOf, entriesToToml, Entry.toToml] using ih

theorem entriesToToml_tables (tables : List (String × List (String × Setting))) :
    entriesToToml (tables.map fun t => (t.1, .table false false (entriesOf t.2))) =
      tables.map fun t => (t.1, .table (t.2.map fun pair => (pair.1, pair.2.toToml))) := by
  induction tables with
  | nil => simp [entriesToToml]
  | cons first more ih => simpa [entriesToToml, Entry.toToml, entriesToToml_entriesOf] using ih

theorem skipMark_of_writeTables? {tables : List (String × List (String × Setting))}
    (written : writeTables? tables = some cs) : skipMark cs = cs := by
  obtain ⟨texts, textsWritten, same⟩ := Option.bind_eq_some_iff.mp written
  cases same
  cases tables with
  | nil =>
    cases textsWritten
    rfl
  | cons first more =>
    rw [List.mapM_cons] at textsWritten
    obtain ⟨text, textWritten, rest⟩ := Option.bind_eq_some_iff.mp textsWritten
    obtain ⟨later, _, same⟩ := Option.bind_eq_some_iff.mp rest
    cases same
    obtain ⟨lines, _, same⟩ := Option.bind_eq_some_iff.mp textWritten
    cases same
    cases later <;> rfl

structure Plain (tables : List (String × List (String × Setting))) : Prop where
  names_nodup : (tables.map Prod.fst).Nodup
  keys_nodup : ∀ table ∈ tables, (table.2.map Prod.fst).Nodup
  bare : ∀ table ∈ tables, IsBare table.1 ∧ ∀ pair ∈ table.2, IsBare pair.1

theorem parse?_of_writeTables? {tables : List (String × List (String × Setting))}
    (plain : Plain tables) (written : writeTables? tables = some cs) :
    parse? (String.ofList cs) = some (.table
      (tables.map fun t => (t.1, .table (t.2.map fun pair => (pair.1, pair.2.toToml))))) := by
  have given := gives_of_writeTables? plain.bare written (cs.length + 1) (Nat.lt_succ_self _)
  have added : (tables.map sectionOf).foldlM (fun entries s => changeAt s.addTo s.path entries) [] =
      some ([] ++ tables.map fun t => (t.1, .table false false (entriesOf t.2))) :=
    addSections_sectionOf plain.names_nodup plain.keys_nodup fun _ _ => rfl
  rw [parse?, String.toList_ofList, skipMark_of_writeTables? written]
  simp only [given, Option.bind_eq_bind, Option.bind_some, assemble]
  rw [show addPairs [] [] = some [] from rfl, Option.bind_some, added, Option.bind_some,
    List.nil_append, entriesToToml_tables]
  rfl

theorem mapM_eq_none_iff {α β : Type} {f : α → Option β} {xs : List α} :
    xs.mapM f = none ↔ ∃ x ∈ xs, f x = none := by
  induction xs with
  | nil => simp
  | cons x xs ih =>
    rw [List.mapM_cons]
    cases fx : f x with
    | none => simp [fx]
    | some y =>
      cases later : xs.mapM f with
      | none => simpa [fx, later] using ih.mp later
      | some ys =>
        rw [later] at ih
        simpa [fx] using ih

theorem Setting.write?_eq_none_iff :
    setting.write? = none ↔ ∃ n, setting = .number n ∧ integerBound ≤ n := by
  cases setting with
  | text s => simp [Setting.write?]
  | flag b => cases b <;> simp [Setting.write?]
  | number n => simp [Setting.write?]

theorem writeTable?_eq_none_iff {name : String} {pairs : List (String × Setting)} :
    writeTable? name pairs = none ↔ ∃ pair ∈ pairs, pair.2.write? = none := by
  simp only [writeTable?, bind_pure_comp, Option.map_eq_map, Option.map_eq_none_iff,
    mapM_eq_none_iff, writePair?]

theorem writeTables?_eq_none_iff {tables : List (String × List (String × Setting))} :
    writeTables? tables = none ↔ ∃ t ∈ tables, ∃ pair ∈ t.2, pair.2.write? = none := by
  simp only [writeTables?, bind_pure_comp, Option.map_eq_map, Option.map_eq_none_iff,
    mapM_eq_none_iff, writeTable?_eq_none_iff]

end CrossReference.Toml
