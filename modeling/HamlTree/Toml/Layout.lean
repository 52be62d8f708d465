/-!
# Toml.Layout -- blanks, comments and line ends

Blanks are spaces and tabs. A comment runs from a sharp sign to the end of its line and holds no
control character but the tab. A line ends in a line feed, with or without a carriage return
before it, or at the end of the document.
-/

set_option autoImplicit false

namespace HamlTree.Toml

/-- A space or a tab. -/
def isBlank (c : Char) : Bool :=
  c == ' ' || c == '\t'

/-- Skip blanks. -/
def skipBlanks (text : List Char) : List Char :=
  text.dropWhile isBlank

/-- A character that is allowed without an escape, quotes and backslashes apart. -/
def isPlain (c : Char) : Bool :=
  c == '\t' || (0x20 ≤ c.toNat && c.toNat != 0x7F)

/-- Skip a comment, up to the end of its line. -/
def skipComment : List Char → List Char
  | '#' :: rest => rest.dropWhile isPlain
  | text => text

/-- What follows a line end. -/
def lineEnd? : List Char → Option (List Char)
  | [] => some []
  | '\n' :: rest => some rest
  | '\r' :: '\n' :: rest => some rest
  | _ => none

/-- What follows the rest of a line that holds nothing but blanks and a comment. -/
def restOfLine? (text : List Char) : Option (List Char) :=
  lineEnd? (skipComment (skipBlanks text))

/-- Skip blanks, line ends and comments, as between the items of an array. `commented` says that a
comment has begun. -/
def skipLayoutFrom (commented : Bool) : List Char → List Char
  | [] => []
  | '\n' :: rest => skipLayoutFrom false rest
  | '\r' :: '\n' :: rest => skipLayoutFrom false rest
  | c :: rest =>
    if commented then if isPlain c then skipLayoutFrom true rest else c :: rest
    else if isBlank c then skipLayoutFrom false rest
    else if c == '#' then skipLayoutFrom true rest
    else c :: rest

/-- Skip blanks, line ends and comments. -/
def skipLayout (text : List Char) : List Char :=
  skipLayoutFrom false text

end HamlTree.Toml
