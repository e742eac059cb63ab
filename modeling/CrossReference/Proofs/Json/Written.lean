import CrossReference.Proofs.Json.Strings

set_option autoImplicit false

/-!
# Written values are read back

A value made of strings, arrays and objects is read back from either of its texts, whether it is
written without blanks or line by line: `parse?_of_written`. `Reads` says of a text that it is read
as a value in front of any other text; a reader needs no more steps than there are characters.
-/
namespace CrossReference.Json

def IsEscaped (written : List Char) : Prop := ∃ cs, escape cs = written

/-- A value without numbers, truth values and nulls. -/
inductive Textual : Json → Prop
  | string {written : List Char} (escaped : IsEscaped written) : Textual (.string written)
  | array {items : List Json} (each : ∀ v ∈ items, Textual v) : Textual (.array items)
  | object {members : List (List Char × Json)} (keys : ∀ m ∈ members, IsEscaped m.1)
      (each : ∀ m ∈ members, Textual m.2) : Textual (.object members)

def IsBlank (cs : List Char) : Prop := ∀ c ∈ cs, isSpace c = true

def Reads (cs : List Char) (v : Json) : Prop :=
  ∀ depth rest, cs.length ≤ depth → readValue? depth (cs ++ rest) = some (v, rest)

/-- The text of items up to the bracket that closes the array. -/
def ReadsItems (cs : List Char) (items : List Json) : Prop :=
  ∀ depth steps rest, cs.length ≤ depth → cs.length ≤ steps →
    readItems? (readValue? depth) steps (cs ++ rest) = some (items, rest)

def ReadsMembers (cs : List Char) (members : List (List Char × Json)) : Prop :=
  ∀ depth steps rest, cs.length ≤ depth → cs.length ≤ steps →
    readMembers? (readValue? depth) steps (cs ++ rest) = some (members, rest)

variable {c : Char} {cs blank more key : List Char} {v : Json} {items : List Json} {depth : Nat}
  {members : List (List Char × Json)}

theorem skipSpace_cons (h : isSpace c = false) (cs : List Char) :
    skipSpace (c :: cs) = c :: cs := by
  simp [skipSpace, h]

theorem skipSpace_append (h : IsBlank blank) (cs : List Char) :
    skipSpace (blank ++ cs) = skipSpace cs :=
  List.dropWhile_append_of_pos h

theorem isBlank_newline (level : Nat) : IsBlank (newline level) := by
  intro c hc
  rcases List.mem_cons.mp hc with rfl | hc
  · rfl
  · rw [List.eq_of_mem_replicate hc]
    rfl

theorem readValue?_skipSpace {cs cs' : List Char} (same : skipSpace cs = skipSpace cs') :
    readValue? depth cs = readValue? depth cs' := by
  cases depth with
  | zero => rfl
  | succ depth => rw [readValue?, readValue?, same]

theorem Reads.skip (h : Reads cs v) (blanks : IsBlank blank) : Reads (blank ++ cs) v := by
  intro depth rest enough
  rw [List.append_assoc, readValue?_skipSpace (skipSpace_append blanks _)]
  exact h depth rest (by rw [List.length_append] at enough; omega)

theorem ReadsItems.last (h : Reads cs v) (blanks : IsBlank blank) :
    ReadsItems (cs ++ (blank ++ [']'])) [v] := by
  intro depth steps rest fits enough
  simp only [List.length_append, List.length_singleton] at fits enough
  cases steps with
  | zero => omega
  | succ steps =>
    have close : skipSpace (blank ++ ([']'] ++ rest)) = ']' :: rest := by
      rw [skipSpace_append blanks]
      rfl
    rw [readItems?, List.append_assoc, List.append_assoc, h depth _ (by omega)]
    simp only [Option.bind_eq_bind, Option.bind_some, close]

theorem ReadsItems.cons (h : Reads cs v) (later : ReadsItems more items) :
    ReadsItems (cs ++ ',' :: more) (v :: items) := by
  intro depth steps rest fits enough
  simp only [List.length_append, List.length_cons] at fits enough
  cases steps with
  | zero => omega
  | succ steps =>
    have comma : skipSpace (',' :: more ++ rest) = ',' :: (more ++ rest) := rfl
    rw [readItems?, List.append_assoc, h depth _ (by omega)]
    simp only [Option.bind_eq_bind, Option.bind_some, comma,
      later depth steps rest (by omega) (by omega), Option.map_some]

theorem readValue?_bracket (h : skipSpace cs = ']' :: more) : readValue? depth cs = none := by
  cases depth with
  | zero => rfl
  | succ depth =>
    rw [readValue?, h]
    rfl

theorem reads_emptyArray : Reads "[]".toList (.array []) := by
  intro depth rest enough
  cases depth with
  | zero => cases enough
  | succ depth => rfl

theorem readValue?_array (nonempty : ∀ rest, skipSpace cs ≠ ']' :: rest) :
    readValue? (depth + 1) ('[' :: cs) =
      (readItems? (readValue? depth) cs.length cs).map
        fun (items, rest) => (.array items, rest) := by
  conv => lhs; whnf
  split
  · next close => exact absurd close (nonempty _)
  · rfl

theorem ReadsItems.reads (h : ReadsItems cs items) : Reads ('[' :: cs) (.array items) := by
  intro depth rest enough
  cases depth with
  | zero => cases enough
  | succ depth =>
    have read := h depth (cs ++ rest).length rest (Nat.le_of_succ_le_succ enough) (by simp)
    rw [List.cons_append, readValue?_array, read]
    · rfl
    -- Items that start with the closing bracket would not have been read.
    · intro behind close
      cases steps : (cs ++ rest).length with
      | zero =>
        rw [List.length_eq_zero_iff.mp steps] at close
        cases close
      | succ n =>
        rw [steps, readItems?, readValue?_bracket close] at read
        cases read

theorem readMembers?_key (escaped : IsEscaped key) (blanks : IsBlank blank) (cs : List Char)
    (steps : Nat) :
    readMembers? (readValue? depth) (steps + 1) (blank ++ (quote key ++ ':' :: cs)) =
      (readValue? depth cs).bind fun (v, rest) =>
        match skipSpace rest with
        | '\x7d' :: rest => some ([(key, v)], rest)
        | ',' :: rest => (readMembers? (readValue? depth) steps rest).map fun (ms, rest) =>
            ((key, v) :: ms, rest)
        | _ => none := by
  obtain ⟨text, rfl⟩ := escaped
  have start : skipSpace (blank ++ (quote (escape text) ++ ':' :: cs)) =
      '"' :: (escape text ++ '"' :: ':' :: cs) := by
    rw [skipSpace_append blanks, quote, List.cons_append, List.cons_append, skipSpace_cons rfl,
      List.append_assoc]
    rfl
  rw [readMembers?, start]
  simp only [readString?_escape, Option.bind_eq_bind, Option.bind_some]
  rfl

theorem ReadsMembers.last (escaped : IsEscaped key) (before : IsBlank blank) (h : Reads cs v)
    {after : List Char} (behind : IsBlank after) :
    ReadsMembers (blank ++ (quote key ++ ':' :: (cs ++ (after ++ ['\x7d'])))) [(key, v)] := by
  intro depth steps rest fits enough
  simp only [List.length_append, List.length_cons, List.length_nil] at fits enough
  cases steps with
  | zero => omega
  | succ steps =>
    have close : skipSpace (after ++ '\x7d' :: rest) = '\x7d' :: rest := by
      rw [skipSpace_append behind]
      rfl
    simp only [List.append_assoc, List.cons_append, List.nil_append]
    rw [readMembers?_key escaped before, h depth _ (by omega)]
    simp only [Option.bind_some, close]

theorem ReadsMembers.cons (escaped : IsEscaped key) (before : IsBlank blank) (h : Reads cs v)
    (later : ReadsMembers more members) :
    ReadsMembers (blank ++ (quote key ++ ':' :: (cs ++ ',' :: more))) ((key, v) :: members) := by
  intro depth steps rest fits enough
  simp only [List.length_append, List.length_cons] at fits enough
  cases steps with
  | zero => omega
  | succ steps =>
    have comma : skipSpace (',' :: (more ++ rest)) = ',' :: (more ++ rest) := rfl
    simp only [List.append_assoc, List.cons_append]
    rw [readMembers?_key escaped before, h depth _ (by omega)]
    simp only [Option.bind_some, comma,
      later depth steps rest (by omega) (by omega), Option.map_some]

theorem reads_emptyObject : Reads "\x7b\x7d".toList (.object []) := by
  intro depth rest enough
  cases depth with
  | zero => cases enough
  | succ depth => rfl

theorem readValue?_object (nonempty : ∀ rest, skipSpace cs ≠ '\x7d' :: rest) :
    readValue? (depth + 1) ('\x7b' :: cs) =
      (readMembers? (readValue? depth) cs.length cs).map fun (members, rest) =>
        (.object members, rest) := by
  conv => lhs; whnf
  split
  · next close => exact absurd close (nonempty _)
  · rfl

theorem ReadsMembers.reads (h : ReadsMembers cs members) :
    Reads ('\x7b' :: cs) (.object members) := by
  intro depth rest enough
  cases depth with
  | zero => cases enough
  | succ depth =>
    have read := h depth (cs ++ rest).length rest (Nat.le_of_succ_le_succ enough) (by simp)
    rw [List.cons_append, readValue?_object, read]
    · rfl
    · intro behind close
      cases steps : (cs ++ rest).length with
      | zero =>
        rw [List.length_eq_zero_iff.mp steps] at close
        cases close
      | succ n =>
        rw [steps, readMembers?, close] at read
        cases read

theorem reads_string (escaped : IsEscaped cs) : Reads (quote cs) (.string cs) := by
  obtain ⟨text, rfl⟩ := escaped
  intro depth rest enough
  cases depth with
  | zero => cases enough
  | succ depth =>
    have read := readString?_escape text rest
    rw [← List.singleton_append, ← List.append_assoc] at read
    exact congrArg (Option.map _) read

theorem isBlank_nil : IsBlank [] := fun _ hc => nomatch hc

theorem readsItems_compact {rest : List Json} (first : Reads v.compact v)
    (each : ∀ w ∈ rest, Reads w.compact w) :
    ReadsItems (v.compact ++ compactItems rest) (v :: rest) := by
  induction rest generalizing v with
  | nil => exact ReadsItems.last first isBlank_nil
  | cons w rest ih =>
    obtain ⟨second, each⟩ := List.forall_mem_cons.mp each
    have later := ih second each
    exact .cons first later

theorem readsMembers_compact {rest : List (List Char × Json)} (escaped : IsEscaped key)
    (first : Reads v.compact v) (keys : ∀ m ∈ rest, IsEscaped m.1)
    (each : ∀ m ∈ rest, Reads m.2.compact m.2) :
    ReadsMembers (quote key ++ ':' :: (v.compact ++ compactMembers rest)) ((key, v) :: rest) := by
  induction rest generalizing key v with
  | nil => exact ReadsMembers.last escaped isBlank_nil first isBlank_nil
  | cons m rest ih =>
    obtain ⟨secondKey, keys⟩ := List.forall_mem_cons.mp keys
    obtain ⟨second, each⟩ := List.forall_mem_cons.mp each
    have later := ih secondKey second keys each
    have read := ReadsMembers.cons escaped isBlank_nil first later
    simpa [compactMembers] using read

theorem Textual.reads_compact (h : Textual v) : Reads v.compact v := by
  induction h with
  | string escaped => exact reads_string escaped
  | @array items each ih =>
    cases items with
    | nil => exact reads_emptyArray
    | cons v rest =>
      obtain ⟨first, later⟩ := List.forall_mem_cons.mp ih
      exact (readsItems_compact first later).reads
  | @object members keys each ih =>
    cases members with
    | nil => exact reads_emptyObject
    | cons m rest =>
      obtain ⟨key, keys⟩ := List.forall_mem_cons.mp keys
      obtain ⟨first, later⟩ := List.forall_mem_cons.mp ih
      have read := (readsMembers_compact key first keys later).reads
      simpa [compact] using read

theorem readsItems_pretty {level : Nat} {rest : List Json} (first : Reads (v.pretty (level + 1)) v)
    (each : ∀ w ∈ rest, Reads (w.pretty (level + 1)) w) :
    ReadsItems (newline (level + 1) ++ v.pretty (level + 1) ++ prettyItems level rest)
      (v :: rest) := by
  induction rest generalizing v with
  | nil => exact ReadsItems.last (first.skip (isBlank_newline _)) (isBlank_newline _)
  | cons w rest ih =>
    obtain ⟨second, each⟩ := List.forall_mem_cons.mp each
    have later := ih second each
    exact ReadsItems.cons (first.skip (isBlank_newline _)) later

theorem readsMembers_pretty {level : Nat} {rest : List (List Char × Json)} (escaped : IsEscaped key)
    (first : Reads (v.pretty (level + 1)) v) (keys : ∀ m ∈ rest, IsEscaped m.1)
    (each : ∀ m ∈ rest, Reads (m.2.pretty (level + 1)) m.2) :
    ReadsMembers (newline (level + 1) ++ (quote key ++ ':' :: ' ' :: (v.pretty (level + 1) ++
      prettyMembers level rest))) ((key, v) :: rest) := by
  have blank : IsBlank [' '] := by simp [IsBlank, isSpace]
  induction rest generalizing key v with
  | nil =>
    exact ReadsMembers.last escaped (isBlank_newline _) (first.skip blank) (isBlank_newline _)
  | cons m rest ih =>
    obtain ⟨secondKey, keys⟩ := List.forall_mem_cons.mp keys
    obtain ⟨second, each⟩ := List.forall_mem_cons.mp each
    have later := ih secondKey second keys each
    have read := ReadsMembers.cons escaped (isBlank_newline (level + 1)) (first.skip blank) later
    simpa [prettyMembers] using read

theorem Textual.reads_pretty (h : Textual v) (level : Nat) : Reads (v.pretty level) v := by
  induction h generalizing level with
  | string escaped => exact reads_string escaped
  | @array items each ih =>
    cases items with
    | nil => exact reads_emptyArray
    | cons v rest =>
      obtain ⟨first, later⟩ := List.forall_mem_cons.mp fun v hv => ih v hv (level + 1)
      exact (readsItems_pretty first later).reads
  | @object members keys each ih =>
    cases members with
    | nil => exact reads_emptyObject
    | cons m rest =>
      obtain ⟨key, keys⟩ := List.forall_mem_cons.mp keys
      obtain ⟨first, later⟩ := List.forall_mem_cons.mp fun m hm => ih m hm (level + 1)
      have read := (readsMembers_pretty key first keys later).reads
      simpa [pretty] using read

def Written (v : Json) (text : String) : Prop := text = v.toCompact ∨ text = v.toPretty

theorem parse?_of_reads_append (h : Reads cs v) (blanks : IsBlank blank) :
    parse? (String.ofList (cs ++ blank)) = some v := by
  have read := h ((cs ++ blank).length + 1) blank (by rw [List.length_append]; omega)
  have ended : skipSpace blank = [] := by
    have passed := skipSpace_append blanks []
    rwa [List.append_nil] at passed
  rw [parse?, String.toList_ofList]
  simp only [read, Option.bind_eq_bind, Option.bind_some, if_pos ended]

theorem parse?_of_reads (h : Reads cs v) : parse? (String.ofList cs) = some v := by
  have read := parse?_of_reads_append h isBlank_nil
  rwa [List.append_nil] at read

theorem parse?_of_written {text : String} (textual : Textual v) (h : v.Written text) :
    parse? text = some v := by
  rcases h with rfl | rfl
  · exact parse?_of_reads textual.reads_compact
  · exact parse?_of_reads (textual.reads_pretty 0)

end CrossReference.Json
