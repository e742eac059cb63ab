import CrossReference.Text.Hidden

set_option autoImplicit false

/-!
# Quoted text

A message quotes a text so that nothing in it can hide: quotes and backslashes are escaped, and a
character that leaves no mark of its own on the page is written as its code point.
-/
namespace CrossReference.Text.Quoted

def shortEscape? : Char → Option Char
  | '\x00' => some '0'
  | '\t' => some 't'
  | '\n' => some 'n'
  | '\r' => some 'r'
  | '"' => some '"'
  | '\\' => some '\\'
  | _ => none

def encodeChar (c : Char) : List Char :=
  match shortEscape? c with
  | some letter => ['\\', letter]
  | none => if isHidden c then '\\' :: 'u' :: '\x7b' :: Nat.toDigits 16 c.toNat ++ ['\x7d'] else [c]

def encode (cs : List Char) : List Char := '"' :: cs.flatMap encodeChar ++ ['"']

end CrossReference.Text.Quoted

namespace CrossReference.Text

def quoted (text : String) : String := String.ofList (Quoted.encode text.toList)

end CrossReference.Text
