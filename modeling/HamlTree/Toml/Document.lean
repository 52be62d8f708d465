import HamlTree.Toml.Moment
import HamlTree.Toml.Numeral
import HamlTree.Toml.Quoted
import HamlTree.Toml.Table

/-!
# Toml.Document -- reading a TOML document

A document is a sequence of lines: blank ones, table headers, and keys with their values.
`Document.read?` gives the table of the whole document, or nothing if the text is no document.
Arrays and inline tables nest less than eighty deep, and a key has fewer than eighty parts.
-/

set_option autoImplicit false

namespace HamlTree.Toml

/-- Nothing nests this deep. -/
def depthLimit : Nat := 80

/-! ## Keys -/

/-- A character of a key without quotes. -/
def isKeyChar (c : Char) : Bool :=
  ('a' ≤ c && c ≤ 'z') || ('A' ≤ c && c ≤ 'Z') || ('0' ≤ c && c ≤ '9') || c == '-' || c == '_'

/-- Read one part of a key. -/
def readKeyPart : List Char → Read
  | '"' :: rest => readBasic rest
  | '\'' :: rest => readLiteral rest
  | text =>
    let name := text.takeWhile isKeyChar
    if name.isEmpty then none else some (name, text.dropWhile isKeyChar)

/-- Read the parts of a key, at most `fuel` of them, with the blanks around them. -/
def readKeyParts : Nat → List Char → Option (List String × List Char)
  | 0, _ => none
  | fuel + 1, text =>
    (readKeyPart (skipBlanks text)).bind fun (part, rest) =>
      match skipBlanks rest with
      | '.' :: more =>
        (readKeyParts fuel more).map fun (parts, after) => (String.ofList part :: parts, after)
      | after => some ([String.ofList part], after)

/-- Read a key: the parts before the last, and the last. -/
def readKey (text : List Char) : Option ((List String × String) × List Char) :=
  (readKeyParts (depthLimit - 1) text).bind fun (parts, rest) =>
    parts.getLast?.map fun last => ((parts.dropLast, last), rest)

/-! ## Values -/

/-- A character of a number, a truth value or a moment. -/
def isTokenChar (c : Char) : Bool :=
  isKeyChar c || c == '+' || c == '.' || c == ':'

/-- Read a number, a truth value or a moment. -/
def readToken (text : List Char) : Option (Data × List Char) :=
  match Moment.read? text with
  | some (moment, rest) => some (.moment (String.ofList moment), rest)
  | none =>
    (Numeral.ofToken? (text.takeWhile isTokenChar)).map fun data =>
      (data, text.dropWhile isTokenChar)

/-- A string that was read, as a value. -/
def stringData (read : Read) : Option (Data × List Char) :=
  read.map fun (text, rest) => (.string (String.ofList text), rest)

mutual

/-- Read a value inside `depth` arrays and inline tables, in at most `fuel` steps. -/
def readValue : Nat → Nat → List Char → Option (Data × List Char)
  | 0, _, _ => none
  | fuel + 1, depth, text =>
    match text with
    | '"' :: '"' :: '"' :: rest => stringData (readBasicLines rest)
    | '"' :: rest => stringData (readBasic rest)
    | '\'' :: '\'' :: '\'' :: rest => stringData (readLiteralLines rest)
    | '\'' :: rest => stringData (readLiteral rest)
    | '[' :: rest =>
      if depth + 1 < depthLimit then
        (readItems fuel (depth + 1) rest).map fun (items, after) => (.array items, after)
      else none
    | '{' :: rest =>
      if depth + 1 < depthLimit then
        match skipBlanks rest with
        | '}' :: after => some (.table [], after)
        | start =>
          (readPairs fuel (depth + 1) [] start).map fun (entries, after) =>
            (.table (entriesData entries), after)
      else none
    | _ => readToken text

/-- Read the items of an array up to its closing bracket. -/
def readItems : Nat → Nat → List Char → Option (List Data × List Char)
  | 0, _, _ => none
  | fuel + 1, depth, text =>
    match skipLayout text with
    | ']' :: rest => some ([], rest)
    | start =>
      match readValue fuel depth start with
      | none => none
      | some (item, rest) =>
        match skipLayout rest with
        | ',' :: more =>
          (readItems fuel depth more).map fun (items, after) => (item :: items, after)
        | ']' :: after => some ([item], after)
        | _ => none

/-- Read the entries of an inline table up to its closing brace. -/
def readPairs : Nat → Nat → Entries → List Char → Option (Entries × List Char)
  | 0, _, _, _ => none
  | fuel + 1, depth, entries, text =>
    match readKey text with
    | some ((path, name), '=' :: rest) =>
      match readValue fuel depth (skipBlanks rest) with
      | none => none
      | some (data, after) =>
        match entries.add path name data, skipBlanks after with
        | some added, ',' :: more => readPairs fuel depth added more
        | some added, '}' :: final => some (added, final)
        | _, _ => none
    | _ => none

end

/-! ## Lines -/

/-- The table of the header met last, and all tables so far. -/
structure Draft where
  header : List String := []
  entries : Entries := []
deriving Repr

/-- Read a key, its value and the rest of the line. -/
def readPairLine (draft : Draft) (text : List Char) : Option (Draft × List Char) :=
  match readKey text with
  | some ((path, name), '=' :: rest) =>
    match readValue (2 * rest.length + 2) 0 (skipBlanks rest) with
    | none => none
    | some (data, after) =>
      match draft.entries.addBelow draft.header path name data, restOfLine? after with
      | some entries, some next => some ({ draft with entries }, next)
      | _, _ => none
  | _ => none

/-- Read a table header, behind its opening brackets. -/
def readHeader (draft : Draft) (isMember : Bool) (text : List Char) :
    Option (Draft × List Char) :=
  match readKey text with
  | none => none
  | some ((path, name), rest) =>
    let header := path ++ [name]
    let closed :=
      match isMember, rest with
      | true, ']' :: ']' :: after => restOfLine? after
      | false, ']' :: after => restOfLine? after
      | _, _ => none
    let opened :=
      if isMember then draft.entries.openMember path name
      else draft.entries.openTable path name
    match opened, closed with
    | some entries, some next => some (⟨header, entries⟩, next)
    | _, _ => none

/-- Read one line. -/
def readLine (draft : Draft) (text : List Char) : Option (Draft × List Char) :=
  match text with
  | '#' :: _ | '\n' :: _ | '\r' :: _ => (restOfLine? text).map fun next => (draft, next)
  | '[' :: '[' :: rest => readHeader draft true rest
  | '[' :: rest => readHeader draft false rest
  | _ => readPairLine draft text

/-- Read lines until the text ends, in at most `fuel` steps. -/
def readLines : Nat → Draft → List Char → Option Draft
  | 0, _, _ => none
  | fuel + 1, draft, text =>
    match skipBlanks text with
    | [] => some draft
    | start =>
      match readLine draft start with
      | some (next, rest) => readLines fuel next rest
      | none => none

/-- The text without a byte order mark at its start. -/
def skipByteOrderMark : List Char → List Char
  | '\uFEFF' :: rest => rest
  | text => text

/-- The table of a whole document. -/
def Document.read? (text : List Char) : Option (List (String × Data)) :=
  (readLines (text.length + 1) {} (skipByteOrderMark text)).map fun draft =>
    entriesData draft.entries

end HamlTree.Toml
