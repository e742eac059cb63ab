import CrossReference.Text.Hex

set_option autoImplicit false

/-!
# TOML strings and keys

There are four forms of strings: basic and literal ones, each on one line or on several. Basic
strings have escapes; literal ones mean what they say. Every reader takes what it can from the front
of a text and hands back the rest.
-/
namespace CrossReference.Toml

def isSpace (c : Char) : Bool := c = ' ' || c = '\t'

def skipSpace (cs : List Char) : List Char := cs.dropWhile isSpace

/-- Controls stand nowhere but in escapes; the tab is none of them. -/
def isPlain (c : Char) : Bool := c = '\t' || (0x20 ≤ c.toNat && c.toNat ≠ 0x7F)

def newline? : List Char → Option (List Char)
  | '\n' :: rest => some rest
  | '\r' :: '\n' :: rest => some rest
  | _ => none

def scalar? (n : Nat) : Option Char := if n.isValidChar then some (Char.ofNat n) else none

def unescapeLetter? : Char → Option Char
  | 'b' => some '\x08'
  | 't' => some '\t'
  | 'n' => some '\n'
  | 'f' => some '\x0c'
  | 'r' => some '\r'
  | '"' => some '"'
  | '\\' => some '\\'
  | _ => none

def unescapeHex? (digits : List Char) : Option Char :=
  if digits.all Text.Hex.isDigit then scalar? (Text.Hex.ofDigits digits) else none

def prepend (c : Char) (r : Option (List Char × List Char)) : Option (List Char × List Char) :=
  r.map fun (text, rest) => (c :: text, rest)

def basic? : List Char → Option (List Char × List Char)
  | [] => none
  | '"' :: rest => some ([], rest)
  | '\\' :: 'u' :: a :: b :: c :: d :: rest =>
    match unescapeHex? [a, b, c, d] with
    | some x => prepend x (basic? rest)
    | none => none
  | '\\' :: 'U' :: a :: b :: c :: d :: e :: f :: g :: h :: rest =>
    match unescapeHex? [a, b, c, d, e, f, g, h] with
    | some x => prepend x (basic? rest)
    | none => none
  | '\\' :: letter :: rest =>
    match unescapeLetter? letter with
    | some x => prepend x (basic? rest)
    | none => none
  | c :: rest => if isPlain c && c ≠ '\\' then prepend c (basic? rest) else none

def literal? : List Char → Option (List Char × List Char)
  | [] => none
  | '\'' :: rest => some ([], rest)
  | c :: rest => if isPlain c then prepend c (literal? rest) else none

/-- A backslash at the end of a line joins the next word to it. -/
def endsLine (cs : List Char) : Bool := (newline? (skipSpace cs)).isSome

/-- The rest of a basic string on several lines. While `joining`, blanks and line breaks are passed
    over. Up to two quotes may stand in front of the three that close the string. -/
def basicLines? (joining : Bool) : List Char → Option (List Char × List Char)
  | [] => none
  | '"' :: '"' :: '"' :: '"' :: '"' :: rest => some (['"', '"'], rest)
  | '"' :: '"' :: '"' :: '"' :: rest => some (['"'], rest)
  | '"' :: '"' :: '"' :: rest => some ([], rest)
  | '\r' :: '\n' :: rest =>
    if joining then basicLines? true rest else prepend '\n' (basicLines? false rest)
  | '\n' :: rest =>
    if joining then basicLines? true rest else prepend '\n' (basicLines? false rest)
  | ' ' :: rest =>
    if joining then basicLines? true rest else prepend ' ' (basicLines? false rest)
  | '\t' :: rest =>
    if joining then basicLines? true rest else prepend '\t' (basicLines? false rest)
  | '\\' :: 'u' :: a :: b :: c :: d :: rest =>
    match unescapeHex? [a, b, c, d] with
    | some x => prepend x (basicLines? false rest)
    | none => none
  | '\\' :: 'U' :: a :: b :: c :: d :: e :: f :: g :: h :: rest =>
    match unescapeHex? [a, b, c, d, e, f, g, h] with
    | some x => prepend x (basicLines? false rest)
    | none => none
  | '\\' :: letter :: rest =>
    if endsLine (letter :: rest) then basicLines? true (letter :: rest)
    else match unescapeLetter? letter with
      | some x => prepend x (basicLines? false rest)
      | none => none
  | c :: rest => if isPlain c && c ≠ '\\' then prepend c (basicLines? false rest) else none

def literalLines? : List Char → Option (List Char × List Char)
  | [] => none
  | '\'' :: '\'' :: '\'' :: '\'' :: '\'' :: rest => some (['\'', '\''], rest)
  | '\'' :: '\'' :: '\'' :: '\'' :: rest => some (['\''], rest)
  | '\'' :: '\'' :: '\'' :: rest => some ([], rest)
  | '\r' :: '\n' :: rest => prepend '\n' (literalLines? rest)
  | '\n' :: rest => prepend '\n' (literalLines? rest)
  | c :: rest => if isPlain c then prepend c (literalLines? rest) else none

/-- A line break right behind the opening quotes is no part of the string. -/
def trimFirstBreak (cs : List Char) : List Char := (newline? cs).getD cs

def string? : List Char → Option (List Char × List Char)
  | '"' :: '"' :: '"' :: rest => basicLines? false (trimFirstBreak rest)
  | '"' :: rest => basic? rest
  | '\'' :: '\'' :: '\'' :: rest => literalLines? (trimFirstBreak rest)
  | '\'' :: rest => literal? rest
  | _ => none

def isKeyChar (c : Char) : Bool := c.isAlphanum || c = '_' || c = '-'

def key? : List Char → Option (List Char × List Char)
  | '"' :: rest => basic? rest
  | '\'' :: rest => literal? rest
  | cs =>
    match cs.takeWhile isKeyChar with
    | [] => none
    | word => some (word, cs.dropWhile isKeyChar)

def path? : Nat → List Char → Option (List String × List Char)
  | 0, _ => none
  | depth + 1, cs => do
    let (key, rest) ← key? (skipSpace cs)
    match skipSpace rest with
    | '.' :: rest => (path? depth rest).map fun (keys, rest) => (String.ofList key :: keys, rest)
    | rest => some ([String.ofList key], rest)

end CrossReference.Toml
