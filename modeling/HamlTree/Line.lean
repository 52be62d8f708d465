import HamlTree.Element

/-!
# Line -- the meaning of one line's text

`Line.read` tells the kinds of line apart by their first characters, once the indentation is gone:

| start         | line                                  |
|---------------|---------------------------------------|
| `\`           | text, whatever follows                |
| `%`           | element                               |
| `.`, `#`      | element named `div`                   |
| `!!!`         | doctype                               |
| `/`           | html comment                          |
| `-#`          | comment for the author                |
| `-`           | code that is only run                 |
| `:`           | filter                                |
| anything else | output expression, `#{` included      |

A filter line yields no node yet: its body follows.
-/

set_option autoImplicit false

namespace HamlTree.Line

open Text

/-- What a line stands for. -/
inductive Meaning where
  | node (content : Content)
  | filter (name : String)
  | nothing
deriving DecidableEq, Repr

/-- The brackets of a condition. -/
def brackets : Bracket.Pair := ⟨'[', ']'⟩

/-- Read an html comment after its sign. -/
def readComment (text : List Char) : Except Fault Content :=
  match trim text with
  | '[' :: inner =>
    let result := Bracket.scan brackets 1 inner
    if result.isBalanced then
      .ok (.htmlComment (String.ofList (trimStart result.rest)) (String.ofList result.inside))
    else .error .openCondition
  | body => .ok (.htmlComment (String.ofList body) "")

/-- Read silent code after its sign. Only blanks are cut from its front. -/
def readSilentScript (text : List Char) (feed : Feed) : Content × Feed :=
  let (whole, after) := feed.pullCode (text.dropWhile (· == ' '))
  (.silentScript (String.ofList whole) (Keyword.detect whole false), after)

/-- Read a filter's name: one word and nothing else. -/
def readFilterName (text : List Char) : Except Fault String :=
  match text with
  | ':' :: name =>
    if !name.isEmpty && name.all isWord then .ok (String.ofList name)
    else .error (.badFilterName (String.ofList text))
  | _ => .error (.badFilterName (String.ofList text))

/-- A reading of a content as the reading of a line. -/
def yields (reading : Reading Content) : Reading Meaning :=
  (reading.1.map Meaning.node, reading.2)

/-- A reading of at most one content as the reading of a line. -/
def yieldsAny (reading : Reading (Option Content)) : Reading Meaning :=
  (reading.1.map fun content => content.elim Meaning.nothing Meaning.node, reading.2)

/-- Read a line with content, outside comments for the author. -/
def read (stamp : Stamp) (text : List Char) (feed : Feed) : Reading Meaning :=
  match text with
  | '\\' :: rest => (.ok (.node (Expression.words rest true)), feed)
  | '%' :: _ => yields (Element.read stamp text feed)
  | '!' :: '!' :: '!' :: rest => (.ok (.node (.doctype (String.ofList (trim rest)))), feed)
  | '/' :: rest => ((readComment rest).map Meaning.node, feed)
  | '-' :: '#' :: _ => (.ok (.node .authorComment), feed)
  | '-' :: rest =>
    let (content, after) := readSilentScript rest feed
    (.ok (.node content), after)
  | '#' :: '{' :: _ => yieldsAny (Expression.read text feed)
  | '#' :: _ | '.' :: _ => yields (Element.read stamp ('%' :: 'd' :: 'i' :: 'v' :: text) feed)
  | ':' :: _ => ((readFilterName text).map Meaning.filter, feed)
  | _ => yieldsAny (Expression.read text feed)

end HamlTree.Line
