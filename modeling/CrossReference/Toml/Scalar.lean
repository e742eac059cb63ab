import CrossReference.Toml.Text
import CrossReference.Toml.Value

set_option autoImplicit false

/-!
# TOML numbers and times

A word that is no string is read as a whole: as a truth value, an integer, a number with a fraction,
or a date or time. Single underscores may stand between digits. Integers fit in 64 bits with a sign.
-/
namespace CrossReference.Toml

def digitRun? (isDigit : Char → Bool) : List Char → Option (List Char × List Char)
  | c :: '_' :: d :: rest =>
    if isDigit c then
      if isDigit d then prepend c (digitRun? isDigit (d :: rest)) else none
    else none
  | c :: d :: rest =>
    if isDigit c then
      if isDigit d then prepend c (digitRun? isDigit (d :: rest)) else some ([c], d :: rest)
    else none
  | [c] => if isDigit c then some ([c], []) else none
  | [] => none

def decimalRun? (cs : List Char) : Option (List Char × List Char) := do
  let (digits, rest) ← digitRun? Char.isDigit cs
  match digits with
  | '0' :: _ :: _ => none
  | digits => some (digits, rest)

/-- The sign in front of a number: true for a minus. -/
def sign : List Char → Bool × List Char
  | '-' :: rest => (true, rest)
  | '+' :: rest => (false, rest)
  | cs => (false, cs)

def inRange (n : Int) : Option Int :=
  if -Int.ofNat integerBound ≤ n ∧ n < Int.ofNat integerBound then some n else none

def based? (base : Nat) (isDigit : Char → Bool) (cs : List Char) : Option Int := do
  let (digits, rest) ← digitRun? isDigit cs
  if rest ≠ [] then none
  else inRange (digits.foldl (fun n c => base * n + (Text.Hex.value? c).getD 0) 0 : Nat)

def isBinaryDigit (c : Char) : Bool := c = '0' || c = '1'

def isOctalDigit (c : Char) : Bool := '0' ≤ c && c ≤ '7'

def integer? : List Char → Option Int
  | '0' :: 'x' :: cs => based? 16 Text.Hex.isDigit cs
  | '0' :: 'o' :: cs => based? 8 isOctalDigit cs
  | '0' :: 'b' :: cs => based? 2 isBinaryDigit cs
  | cs => do
    let (minus, cs) := sign cs
    let (digits, rest) ← decimalRun? cs
    let n : Int := Nat.ofDigitChars 10 digits 0
    if rest ≠ [] then none else inRange (if minus then -n else n)

def exponent? : List Char → Option Int
  | mark :: cs =>
    if mark = 'e' ∨ mark = 'E' then do
      let (minus, cs) := sign cs
      let (digits, rest) ← digitRun? Char.isDigit cs
      let n : Int := Nat.ofDigitChars 10 digits 0
      if rest ≠ [] then none else some (if minus then -n else n)
    else none
  | [] => none

/-- A number with a fraction, an exponent or both, up to the end of the word: its digits, and the
    power of ten that they are multiplied by. -/
def scaled? (unsigned : List Char) : Option (List Char × Int) := do
  let (whole, rest) ← decimalRun? unsigned
  match rest with
  | '.' :: rest =>
    let (part, rest) ← digitRun? Char.isDigit rest
    let power ← if rest = [] then some 0 else exponent? rest
    return (whole ++ part, power - part.length)
  | rest => return (whole, ← exponent? rest)

/-- Half-way from the greatest finite number of double precision to the power of two behind it. -/
def overflowBound : Nat := 0x3FFFFFFFFFFFFF * Nat.pow 2 970

/-- Whether digits times a power of ten round to infinity in double precision. The bound has 309
    digits, so only a number of as many places is compared with it digit by digit. -/
def overflows (digits : List Char) (power : Int) : Bool :=
  let digits := digits.dropWhile (· = '0')
  let places : Int := digits.length + power
  if digits = [] ∨ places < 309 then false
  else if 309 < places then true
  else
    let n := Nat.ofDigitChars 10 digits 0
    overflowBound * Nat.pow 10 (-power).toNat ≤ n * Nat.pow 10 power.toNat

/-- A number with a fraction, an exponent or both, or one of the two words for numbers that are
    none. A number may be too small for double precision, but not too great. -/
def isFraction (word : List Char) : Bool :=
  let (minus, unsigned) := sign word
  unsigned = ['i', 'n', 'f'] || unsigned = ['n', 'a', 'n'] ||
    (scaled? unsigned).any fun (digits, power) => minus || !overflows digits power

def number? (count : Nat) (cs : List Char) : Option (Nat × List Char) :=
  let digits := cs.take count
  if digits.length = count ∧ digits.all Char.isDigit then
    some (Nat.ofDigitChars 10 digits 0, cs.drop count)
  else none

def daysIn (year month : Nat) : Nat :=
  if month = 2 then
    if year % 4 = 0 ∧ (year % 100 ≠ 0 ∨ year % 400 = 0) then 29 else 28
  else if month = 4 ∨ month = 6 ∨ month = 9 ∨ month = 11 then 30
  else 31

def expect? (c : Char) : List Char → Option (List Char)
  | d :: rest => if d = c then some rest else none
  | [] => none

def date? (cs : List Char) : Option (List Char) := do
  let (year, rest) ← number? 4 cs
  let (month, rest) ← number? 2 (← expect? '-' rest)
  let (day, rest) ← number? 2 (← expect? '-' rest)
  if 1 ≤ month ∧ month ≤ 12 ∧ 1 ≤ day ∧ day ≤ daysIn year month then some rest else none

def secondPart? : List Char → Option (List Char)
  | '.' :: rest =>
    if (rest.takeWhile Char.isDigit).isEmpty then none else some (rest.dropWhile Char.isDigit)
  | cs => some cs

/-- What follows a time of day at the front of a word. A minute may have a leap second. -/
def time? (cs : List Char) : Option (List Char) := do
  let (hour, rest) ← number? 2 cs
  let (minute, rest) ← number? 2 (← expect? ':' rest)
  let (second, rest) ← number? 2 (← expect? ':' rest)
  if hour ≤ 23 ∧ minute ≤ 59 ∧ second ≤ 60 then secondPart? rest else none

def isOffset : List Char → Bool
  | [] => true
  | ['Z'] | ['z'] => true
  | c :: rest =>
    (c = '+' || c = '-') &&
      ((do
        let (hour, rest) ← number? 2 rest
        let (minute, rest) ← number? 2 (← expect? ':' rest)
        return (hour ≤ 23 && minute ≤ 59 && rest.isEmpty) : Option Bool).getD false)

def isTimeWithOffset (cs : List Char) : Bool := (time? cs).any isOffset

def isMoment (word : List Char) : Bool :=
  match date? word with
  | some [] => true
  | some (mark :: rest) => (mark = 'T' || mark = 't' || mark = ' ') && isTimeWithOffset rest
  | none => (time? word).any List.isEmpty

def isWordChar (c : Char) : Bool :=
  c.isAlphanum || c = '_' || c = '-' || c = '+' || c = '.' || c = ':'

/-- The word in front of a text. A time may stand one blank behind its date. -/
def word (cs : List Char) : List Char × List Char :=
  let first := cs.takeWhile isWordChar
  let rest := cs.dropWhile isWordChar
  match rest with
  | ' ' :: behind =>
    if date? first = some [] && (behind.head?.any Char.isDigit) then
      (first ++ ' ' :: behind.takeWhile isWordChar, behind.dropWhile isWordChar)
    else (first, rest)
  | _ => (first, rest)

def ofWord? (w : List Char) : Option Toml :=
  if w = "true".toList then some (.bool true)
  else if w = "false".toList then some (.bool false)
  else match integer? w with
    | some n => some (.integer n)
    | none => if isFraction w then some .fraction else if isMoment w then some .moment else none

end CrossReference.Toml
