import HamlTree.Value

/-!
# Value.Json -- printing a value as JSON

Two layouts: `Layout.compact` has no white space at all, `Layout.pretty` gives each entry a line
of its own, two blanks deeper than what it belongs to, and a blank after each colon. Empty lists
and records stay on one line. In a text only the quote, the backslash and the characters below
U+0020 are escaped.
-/

set_option autoImplicit false

namespace HamlTree.Value.Json

/-- How the entries of lists and records are set. -/
inductive Layout where
  | compact
  | pretty
deriving DecidableEq, Repr

/-- What stands before an entry, or a closing bracket, `depth` levels in. -/
def Layout.lineStart (layout : Layout) (depth : Nat) : List Char :=
  match layout with
  | compact => []
  | pretty => '\n' :: List.replicate (2 * depth) ' '

/-- What stands between a field's name and its value. -/
def Layout.colon : Layout → List Char
  | compact => [':']
  | pretty => [':', ' ']

/-- A lower-case hexadecimal digit. -/
def hexDigit (n : Nat) : Char :=
  Char.ofNat (if n < 10 then 0x30 + n else 0x57 + n)

/-- A character inside a quoted text. -/
def escape (c : Char) : List Char :=
  match c with
  | '"' => ['\\', '"']
  | '\\' => ['\\', '\\']
  | '\x08' => ['\\', 'b']
  | '\x0c' => ['\\', 'f']
  | '\n' => ['\\', 'n']
  | '\r' => ['\\', 'r']
  | '\t' => ['\\', 't']
  | _ =>
    if c.toNat < 0x20 then
      ['\\', 'u', '0', '0', hexDigit (c.toNat / 16), hexDigit (c.toNat % 16)]
    else [c]

/-- A text in quotes. -/
def quoted (text : String) : List Char :=
  '"' :: text.toList.flatMap escape ++ ['"']

mutual

/-- A value whose entries are `depth` levels in. -/
def print (layout : Layout) (depth : Nat) : Value → List Char
  | .null => "null".toList
  | .bool true => "true".toList
  | .bool false => "false".toList
  | .number n => n.repr.toList
  | .string text => quoted text
  | .list [] => ['[', ']']
  | .list (item :: rest) =>
    '[' :: layout.lineStart (depth + 1) ++ print layout (depth + 1) item ++
      printItems layout (depth + 1) rest ++ layout.lineStart depth ++ [']']
  | .record [] => ['{', '}']
  | .record ((name, value) :: rest) =>
    '{' :: layout.lineStart (depth + 1) ++ quoted name ++ layout.colon ++
      print layout (depth + 1) value ++ printFields layout (depth + 1) rest ++
      layout.lineStart depth ++ ['}']

/-- The items of a list after the first. -/
def printItems (layout : Layout) (depth : Nat) : List Value → List Char
  | [] => []
  | item :: rest =>
    ',' :: layout.lineStart depth ++ print layout depth item ++ printItems layout depth rest

/-- The fields of a record after the first. -/
def printFields (layout : Layout) (depth : Nat) : List (String × Value) → List Char
  | [] => []
  | (name, value) :: rest =>
    ',' :: layout.lineStart depth ++ quoted name ++ layout.colon ++ print layout depth value ++
      printFields layout depth rest

end

/-- A value as JSON, without a line feed at the end. -/
def render (layout : Layout) (value : Value) : List Char :=
  print layout 0 value

end HamlTree.Value.Json
