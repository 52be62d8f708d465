import HamlTree.Number.Digits
import HamlTree.Toml.Layout

/-!
# Toml.Quoted -- strings

Four kinds of string: in double quotes with escapes, or in single quotes exactly as they stand,
each on one line or, with tripled quotes, on several. A line end directly after the opening triple
is not part of the string, and one or two quotes may stand directly before the closing triple. In
double quotes a backslash at the end of a line removes that line end and all blanks and line ends
after it.

Each reader starts behind the opening quotes and gives the string with what follows the closing
ones.
-/

set_option autoImplicit false

namespace HamlTree.Toml

/-- A string that was read, and the text behind it. -/
abbrev Read := Option (List Char × List Char)

/-- Put a character in front of a string that was read. -/
def Read.cons (c : Char) (read : Read) : Read :=
  read.map fun (text, rest) => (c :: text, rest)

/-- The character with this code point, written in hexadecimal. -/
def ofCodePoint? (digits : List Char) : Option Char :=
  (Number.ofDigits? 16 digits).bind fun n =>
    if n < 0xD800 || (0xDFFF < n && n < 0x110000) then some (Char.ofNat n) else none

/-- The character that a backslash and a letter stand for. -/
def escaped? : Char → Option Char
  | 'b' => some '\x08'
  | 't' => some '\t'
  | 'n' => some '\n'
  | 'f' => some '\x0c'
  | 'r' => some '\r'
  | '"' => some '"'
  | '\\' => some '\\'
  | _ => none

/-- The character that an escape stands for, read behind its backslash, and what follows. -/
def escape? : List Char → Option (Char × List Char)
  | 'u' :: rest => (ofCodePoint? (rest.take 4)).bind fun c =>
    if 4 ≤ rest.length then some (c, rest.drop 4) else none
  | 'U' :: rest => (ofCodePoint? (rest.take 8)).bind fun c =>
    if 8 ≤ rest.length then some (c, rest.drop 8) else none
  | c :: rest => (escaped? c).map fun meant => (meant, rest)
  | [] => none

/-! ## On one line -/

/-- Read a string in double quotes, in at most `fuel` steps. -/
def readBasicAux : Nat → List Char → Read
  | 0, _ => none
  | _, [] => none
  | _, '"' :: rest => some ([], rest)
  | fuel + 1, '\\' :: rest =>
    match escape? rest with
    | some (c, after) => (readBasicAux fuel after).cons c
    | none => none
  | fuel + 1, c :: rest => if isPlain c then (readBasicAux fuel rest).cons c else none

/-- Read a string in double quotes. -/
def readBasic (text : List Char) : Read :=
  readBasicAux (text.length + 1) text

/-- Read a string in single quotes. -/
def readLiteral : List Char → Read
  | [] => none
  | '\'' :: rest => some ([], rest)
  | c :: rest => if isPlain c then (readLiteral rest).cons c else none

/-! ## On several lines -/

/-- Skip a line end directly behind the opening quotes. -/
def skipFirstLineEnd : List Char → List Char
  | '\n' :: rest => rest
  | '\r' :: '\n' :: rest => rest
  | text => text

/-- Skip blanks and line ends. -/
def skipBlankLines : List Char → List Char
  | '\n' :: rest => skipBlankLines rest
  | '\r' :: '\n' :: rest => skipBlankLines rest
  | c :: rest => if isBlank c then skipBlankLines rest else c :: rest
  | [] => []

/-- What follows a line end and all blanks and line ends after it. -/
def joinedLine? (text : List Char) : Option (List Char) :=
  match skipBlanks text with
  | '\n' :: rest => some (skipBlankLines rest)
  | '\r' :: '\n' :: rest => some (skipBlankLines rest)
  | _ => none

/-- Read a string in tripled double quotes, in at most `fuel` steps. -/
def readBasicLinesAux : Nat → List Char → Read
  | 0, _ => none
  | _, [] => none
  | _, '"' :: '"' :: '"' :: '"' :: '"' :: rest => some (['"', '"'], rest)
  | _, '"' :: '"' :: '"' :: '"' :: rest => some (['"'], rest)
  | _, '"' :: '"' :: '"' :: rest => some ([], rest)
  | fuel + 1, '\\' :: rest =>
    match joinedLine? rest, escape? rest with
    | some after, _ => readBasicLinesAux fuel after
    | none, some (c, after) => (readBasicLinesAux fuel after).cons c
    | none, none => none
  | fuel + 1, '\r' :: '\n' :: rest => (readBasicLinesAux fuel rest).cons '\n'
  | fuel + 1, c :: rest =>
    if isPlain c || c == '\n' then (readBasicLinesAux fuel rest).cons c else none

/-- Read a string in tripled double quotes. -/
def readBasicLines (text : List Char) : Read :=
  readBasicLinesAux (text.length + 1) (skipFirstLineEnd text)

/-- Read a string in tripled single quotes, behind any first line end. -/
def readLiteralLinesFrom : List Char → Read
  | [] => none
  | '\'' :: '\'' :: '\'' :: '\'' :: '\'' :: rest => some (['\'', '\''], rest)
  | '\'' :: '\'' :: '\'' :: '\'' :: rest => some (['\''], rest)
  | '\'' :: '\'' :: '\'' :: rest => some ([], rest)
  | '\r' :: '\n' :: rest => (readLiteralLinesFrom rest).cons '\n'
  | c :: rest =>
    if isPlain c || c == '\n' then (readLiteralLinesFrom rest).cons c else none

/-- Read a string in tripled single quotes. -/
def readLiteralLines (text : List Char) : Read :=
  readLiteralLinesFrom (skipFirstLineEnd text)

end HamlTree.Toml
