import HamlTree.Text.Unprintable

/-!
# Text.Quoted -- a text inside a message

A message shows a text it speaks of in double quotes. Quotes and backslashes in it have a
backslash in front, the usual control characters are a backslash and a letter, and a character
that could not be seen is written as its code point in hexadecimal.
-/

set_option autoImplicit false

namespace HamlTree.Text

/-- A code point in hexadecimal, in braces. -/
def codePoint (c : Char) : List Char :=
  '\\' :: 'u' :: '{' :: Nat.toDigits 16 c.toNat ++ ['}']

/-- The character can be seen in a quoted text. -/
def isVisible (c : Char) : Bool :=
  if c.toNat < 0x7F then 0x20 ≤ c.toNat else !unprintable.contains c

/-- A character of a quoted text. -/
def quotedChar (c : Char) : List Char :=
  match c with
  | '\x00' => ['\\', '0']
  | '\t' => ['\\', 't']
  | '\r' => ['\\', 'r']
  | '\n' => ['\\', 'n']
  | '"' => ['\\', '"']
  | '\\' => ['\\', '\\']
  | _ => if isVisible c then [c] else codePoint c

/-- A text in double quotes. -/
def quoted (text : List Char) : List Char :=
  '"' :: text.flatMap quotedChar ++ ['"']

end HamlTree.Text
