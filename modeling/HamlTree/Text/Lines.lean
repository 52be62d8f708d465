/-!
# Text.Lines -- physical lines and their separator

A text is cut at each line feed. One carriage return directly before the line feed belongs to the
separator; any other stays in its line. A line feed ends a line and starts none, so a text that
ends in one has no empty last line and the empty text has no lines at all. `joinLines` is the
other direction: a line feed between neighbours, none at the end. `cutAt` cuts at any one
character, which only separates: it has one part more than there are separators.
-/

set_option autoImplicit false

namespace HamlTree.Text

/-- Put one character in front of the first line. -/
def consLine (c : Char) : List (List Char) → List (List Char)
  | [] => [[c]]
  | line :: rest => (c :: line) :: rest

/-- The physical lines of a text. -/
def lines : List Char → List (List Char)
  | [] => []
  | '\n' :: rest => [] :: lines rest
  | '\r' :: '\n' :: rest => [] :: lines rest
  | c :: rest => consLine c (lines rest)

/-- The parts of a text between the occurrences of a character. There is always at least one. -/
def cutAt (separator : Char) : List Char → List (List Char)
  | [] => [[]]
  | c :: rest =>
    if c = separator then [] :: cutAt separator rest else consLine c (cutAt separator rest)

/-- The parts with a separator between neighbours. -/
def joinWith (separator : List Char) : List (List Char) → List Char
  | [] => []
  | [part] => part
  | part :: rest => part ++ separator ++ joinWith separator rest

/-- The lines with a line feed between neighbours. -/
def joinLines : List (List Char) → List Char :=
  joinWith ['\n']

end HamlTree.Text
