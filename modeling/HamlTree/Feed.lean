import HamlTree.Text.Trim
import HamlTree.Text.Lines

/-!
# Feed -- the lines of a template, handed out one at a time

A `Feed` holds the physical lines not yet handed out, each without white space at its end, and
counts those that were. There are two ways to take from it:

* raw, one physical line as it stands, which filter bodies need;
* logical, where a run of lines that end in ` |` counts as one. The pipes are cut, every piece but
  the first loses its indentation, and line feeds join the pieces, so that the number of physical
  lines taken can be read off the result.

A line such as `- list.each do | item |` ends in a list of block arguments and continues nothing.
`Feed.pull` serves code that continues after a comma: it takes logical lines as long as the last
one taken ends in such a comma.
-/

set_option autoImplicit false

namespace HamlTree

open Text

/-! ## Pipes -/

/-- The line, read backwards from just before its last pipe, ends a block's argument list: a pipe
stands before the arguments, and `do` before that pipe, with white space between at most. -/
def closesBlockArguments (backwards : List Char) : Bool :=
  match backwards.dropWhile (· != '|') with
  | '|' :: before =>
    match before.dropWhile isSpace with
    | 'o' :: 'd' :: _ => true
    | _ => false
  | _ => false

/-- The line ends in ` |` and so belongs to the same logical line as a neighbour that does. -/
def isPiped (line : List Char) : Bool :=
  match line.reverse with
  | '|' :: ' ' :: before => !closesBlockArguments before
  | _ => false

/-- The line without the pipe at its end. -/
def cutPipe (line : List Char) : List Char :=
  match line.reverse with
  | '|' :: before => before.reverse
  | _ => line

/-- One logical line made of a run of piped lines. -/
def foldPiped (first : List Char) (following : List (List Char)) : List Char :=
  joinLines (cutPipe first :: following.map fun line => trimStart (cutPipe line))

/-! ## Commas -/

/-- The end of a text before its last comma, read backwards, is a character literal such as `?` or
`?\`: then the comma is the literal and continues nothing. A `?` after a letter, a number or `_` ends
the name of a predicate instead. -/
def endsInCharLiteral : List Char → Bool
  | b :: a :: _ =>
    (!(isAlphanumeric a || a == '_') && b == '?') || (a == '?' && b == '\\')
  | _ => false

/-- The text ends in a comma that continues it on the next line. -/
def isContinued (text : List Char) : Bool :=
  match text.reverse with
  | ',' :: before => !before.isEmpty && !endsInCharLiteral before
  | _ => false

/-! ## The feed -/

/-- The lines of a template that are still to come. -/
structure Feed where
  filename : Option String
  pending : List (List Char)
  lineno : Nat := 0
deriving DecidableEq, Repr

namespace Feed

/-- All lines of a template. -/
def ofSource (filename : Option String) (source : List Char) : Feed :=
  ⟨filename, (lines source).map trimEnd, 0⟩

/-- Lines are left. -/
def hasNext (feed : Feed) : Bool :=
  !feed.pending.isEmpty

/-- Take one physical line. -/
def nextRaw (feed : Feed) : Option (List Char × Feed) :=
  match feed.pending with
  | [] => none
  | line :: rest => some (line, { feed with pending := rest, lineno := feed.lineno + 1 })

/-- Take one logical line. -/
def next (feed : Feed) : Option (List Char × Feed) :=
  match feed.pending with
  | [] => none
  | line :: rest =>
    if isPiped line then
      let following := rest.takeWhile isPiped
      some (foldPiped line following,
        { feed with
          pending := rest.dropWhile isPiped
          lineno := feed.lineno + 1 + following.length })
    else some (line, { feed with pending := rest, lineno := feed.lineno + 1 })

/-- Take a line in the way asked for. -/
def take (feed : Feed) (raw : Bool) : Option (List Char × Feed) :=
  if raw then feed.nextRaw else feed.next

/-- Take logical lines while the last text read is continued, at most `fuel` of them. -/
def pullAux : Nat → List Char → Feed → List (List Char) × Feed
  | 0, _, feed => ([], feed)
  | fuel + 1, text, feed =>
    if isContinued text then
      match feed.next with
      | none => ([], feed)
      | some (line, after) =>
        let (more, final) := pullAux fuel line after
        (line :: more, final)
    else ([], feed)

/-- The logical lines that continue `text`, in order. There are at most as many as physical lines
are left. -/
def pull (feed : Feed) (text : List Char) : List (List Char) × Feed :=
  pullAux feed.pending.length text feed

/-- Code with its continuation lines, joined by line feeds. -/
def pullCode (feed : Feed) (code : List Char) : List Char × Feed :=
  let (more, after) := feed.pull code
  (joinLines (code :: more), after)

end Feed

end HamlTree
