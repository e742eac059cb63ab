import CrossReference.Json.Value

set_option autoImplicit false

/-!
# Reading JSON

Each reader takes what it can from the front of a text and hands back the rest. Nesting is bounded
by the length of the text, since every level opens with a character.
-/
namespace CrossReference.Json

def isSpace (c : Char) : Bool := c = ' ' || c = '\n' || c = '\r' || c = '\t'

def skipSpace (cs : List Char) : List Char := cs.dropWhile isSpace

def readString? : List Char → Option (List Char × List Char)
  | [] => none
  | '"' :: rest => some ([], rest)
  | '\\' :: 'u' :: a :: b :: c :: d :: rest =>
    if [a, b, c, d].all Text.Hex.isDigit then
      (readString? rest).map fun (written, rest) =>
        ('\\' :: 'u' :: a :: b :: c :: d :: written, rest)
    else none
  | '\\' :: letter :: rest =>
    if (unescapeLetter? letter).isSome then
      (readString? rest).map fun (written, rest) => ('\\' :: letter :: written, rest)
    else none
  | c :: rest =>
    if c.toNat < 0x20 then none
    else (readString? rest).map fun (written, rest) => (c :: written, rest)

def readDigits? (cs : List Char) : Option (List Char × List Char) :=
  match cs.takeWhile Char.isDigit with
  | [] => none
  | digits => some (digits, cs.dropWhile Char.isDigit)

def readWhole? (cs : List Char) : Option (List Char × List Char) := do
  let (digits, rest) ← readDigits? cs
  match digits with
  | '0' :: _ :: _ => none
  | digits => some (digits, rest)

def readFraction? : List Char → Option (List Char × List Char)
  | '.' :: rest => (readDigits? rest).map fun (digits, rest) => ('.' :: digits, rest)
  | cs => some ([], cs)

def readExponent? : List Char → Option (List Char × List Char)
  | mark :: rest =>
    if mark = 'e' || mark = 'E' then
      match rest with
      | sign :: behind =>
        if sign = '+' || sign = '-' then
          (readDigits? behind).map fun (digits, rest) => (mark :: sign :: digits, rest)
        else (readDigits? rest).map fun (digits, rest) => (mark :: digits, rest)
      | [] => none
    else some ([], mark :: rest)
  | [] => some ([], [])

def readSign : List Char → List Char × List Char
  | '-' :: rest => (['-'], rest)
  | cs => ([], cs)

def readNumber? (cs : List Char) : Option (List Char × List Char) := do
  let (sign, rest) := readSign cs
  let (whole, rest) ← readWhole? rest
  let (fraction, rest) ← readFraction? rest
  let (exponent, rest) ← readExponent? rest
  return (sign ++ whole ++ fraction ++ exponent, rest)

def readItems? (readValue? : List Char → Option (Json × List Char)) :
    Nat → List Char → Option (List Json × List Char)
  | 0, _ => none
  | steps + 1, cs => do
    let (v, rest) ← readValue? cs
    match skipSpace rest with
    | ']' :: rest => some ([v], rest)
    | ',' :: rest => (readItems? readValue? steps rest).map fun (vs, rest) => (v :: vs, rest)
    | _ => none

def readMembers? (readValue? : List Char → Option (Json × List Char)) :
    Nat → List Char → Option (List (List Char × Json) × List Char)
  | 0, _ => none
  | steps + 1, cs => do
    match skipSpace cs with
    | '"' :: rest =>
      let (key, rest) ← readString? rest
      match skipSpace rest with
      | ':' :: rest =>
        let (v, rest) ← readValue? rest
        match skipSpace rest with
        | '\x7d' :: rest => some ([(key, v)], rest)
        | ',' :: rest =>
          (readMembers? readValue? steps rest).map fun (ms, rest) => ((key, v) :: ms, rest)
        | _ => none
      | _ => none
    | _ => none

/-- A value with blanks in front of it, nested at most `depth` levels. -/
def readValue? : Nat → List Char → Option (Json × List Char)
  | 0, _ => none
  | depth + 1, cs =>
    match skipSpace cs with
    | 'n' :: 'u' :: 'l' :: 'l' :: rest => some (.null, rest)
    | 't' :: 'r' :: 'u' :: 'e' :: rest => some (.bool true, rest)
    | 'f' :: 'a' :: 'l' :: 's' :: 'e' :: rest => some (.bool false, rest)
    | '"' :: rest => (readString? rest).map fun (written, rest) => (.string written, rest)
    | '[' :: rest =>
      match skipSpace rest with
      | ']' :: rest => some (.array [], rest)
      | _ => (readItems? (readValue? depth) rest.length rest).map fun (items, rest) =>
          (.array items, rest)
    | '\x7b' :: rest =>
      match skipSpace rest with
      | '\x7d' :: rest => some (.object [], rest)
      | _ => (readMembers? (readValue? depth) rest.length rest).map fun (members, rest) =>
          (.object members, rest)
    | cs => (readNumber? cs).map fun (written, rest) => (.number written, rest)

def parse? (s : String) : Option Json := do
  let cs := s.toList
  let (v, rest) ← readValue? (cs.length + 1) cs
  if skipSpace rest = [] then some v else none

end CrossReference.Json
