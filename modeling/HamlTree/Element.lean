import HamlTree.Bracket
import HamlTree.Expression

/-!
# Element -- reading an element's line

An element is written `%name.class#id{group}(group)<>/ content`, and its parts are taken from left
to right:

1. the name, the longest run of name characters after `%`;
2. any number of `.class` and `#id`; classes add up, the last id counts;
3. at most one group in braces and one in parentheses, in either order. A group that is still open
   at the end of the line goes on over the lines that follow;
4. `<`, `>` or both, which remove white space inside or outside;
5. `/` for an element that closes itself, which has to end the line;
6. an output expression on the element's own line.
-/

set_option autoImplicit false

namespace HamlTree.Element

open Text

/-! ## Name, classes and ids -/

/-- A character of an element's, a class's or an id's name. -/
def isNameChar (c : Char) : Bool :=
  c == '-' || c == ':' || isWord c

/-- A sign before a class or an id. -/
def isSelectorSign (c : Char) : Bool :=
  c == '.' || c == '#'

/-- Cut a text at its selector signs: what stands before the first, then each sign with the text up
to the next. -/
def cutSelectors : List Char → List Char × List (Char × List Char)
  | [] => ([], [])
  | c :: rest =>
    let (before, selectors) := cutSelectors rest
    if isSelectorSign c then ([], (c, before) :: selectors) else (c :: before, selectors)

/-- The classes, with a blank between neighbours, and the last id. Each sign needs a name. -/
def readSelectors (text : List Char) : Except Fault (List Char × List Char) :=
  let (before, selectors) := cutSelectors text
  if !before.isEmpty || selectors.any (·.2.isEmpty) then .error .namelessSelector
  else
    let named (sign : Char) := (selectors.filter (·.1 == sign)).map Prod.snd
    .ok (joinWith [' '] (named '.'), (named '#').getLast?.getD [])

/-! ## Attribute groups -/

/-- Braces around a group. -/
def braces : Bracket.Pair := ⟨'{', '}'⟩

/-- Parentheses around a group. -/
def parens : Bracket.Pair := ⟨'(', ')'⟩

/-- The fault of a group that never closes. -/
def openGroup (pair : Bracket.Pair) : Fault :=
  if pair = braces then .openBrace else .openParen

/-- Read a group whose opener was just taken, with at most `fuel` further lines. -/
def readGroupAux (pair : Bracket.Pair) : Nat → List Char → Feed → Reading (List Char × List Char)
  | fuel, text, feed =>
    let result := Bracket.scan pair 1 text
    if result.isBalanced then (.ok (result.inside, trimStart result.rest), feed)
    else
      match fuel, feed.next with
      | fuel + 1, some (line, after) => readGroupAux pair fuel (text ++ '\n' :: line) after
      | _, _ => (.error (openGroup pair), feed)

/-- Read a group whose opener was just taken: its text, and what follows the closer without the
white space there. -/
def readGroup (pair : Bracket.Pair) (text : List Char) (feed : Feed) :
    Reading (List Char × List Char) :=
  readGroupAux pair feed.pending.length text feed

/-- Read groups of the pairs that are still available, at most `count` of them. -/
def readGroupsAux : Nat → List Bracket.Pair → List Char → Feed →
    Reading (List (List Char) × List Char)
  | 0, _, text, feed => (.ok ([], text), feed)
  | count + 1, available, text, feed =>
    match available.find? fun pair => text.head? == some pair.opener with
    | none => (.ok ([], text), feed)
    | some pair =>
      match readGroup pair text.tail feed with
      | (.error fault, after) => (.error fault, after)
      | (.ok (group, rest), after) =>
        match readGroupsAux count (available.erase pair) rest after with
        | (.error fault, final) => (.error fault, final)
        | (.ok (groups, final), last) => (.ok (group :: groups, final), last)

/-- Read at most one group in braces and one in parentheses: their text with a comma and a blank
between, and what follows. -/
def readAttributes (text : List Char) (feed : Feed) : Reading (List Char × List Char) :=
  match readGroupsAux 2 [braces, parens] text feed with
  | (.error fault, after) => (.error fault, after)
  | (.ok (groups, rest), after) => (.ok (joinWith [',', ' '] groups, rest), after)

/-! ## Signs at the end -/

/-- The signs that remove white space. -/
structure Nukes where
  inner : Bool
  outer : Bool
deriving DecidableEq, Repr

/-- Read the signs that remove white space. -/
def readNukes : List Char → Nukes × List Char
  | '>' :: '<' :: rest => (⟨true, true⟩, rest)
  | '<' :: '>' :: rest => (⟨true, true⟩, rest)
  | '>' :: rest => (⟨false, true⟩, rest)
  | '<' :: rest => (⟨true, false⟩, rest)
  | rest => (⟨false, false⟩, rest)

/-- Read the sign of an element that closes itself. -/
def readSelfClosing : List Char → Except Fault (Bool × List Char)
  | ['/'] => .ok (true, [])
  | '/' :: _ => .error .selfClosingContent
  | rest => .ok (false, rest)

/-! ## The whole line -/

/-- An element's name, the run of classes and ids after it, and what is left of the line. A line feed
may stand in none of them. -/
def readHead : List Char → Except Fault (List Char × List Char × List Char)
  | '%' :: text =>
    let name := text.takeWhile isNameChar
    let afterName := text.dropWhile isNameChar
    let isSelectorChar := fun c => isNameChar c || isSelectorSign c
    let rest := afterName.dropWhile isSelectorChar
    if name.isEmpty || rest.contains '\n' then .error .badElement
    else .ok (name, afterName.takeWhile isSelectorChar, rest)
  | _ => .error .badElement

/-- Read what follows the attribute groups. -/
def readTail (stamp : Stamp) (tag : Tag) (text : List Char) (feed : Feed) : Reading Content :=
  let (nukes, afterNukes) := readNukes text
  match readSelfClosing afterNukes with
  | .error fault => (.error fault, feed)
  | .ok (selfClosing, rest) =>
    match Expression.read rest feed with
    | (.error fault, after) => (.error fault, after)
    | (.ok inline, after) =>
      (.ok (.element
        { tag with selfClosing, nukesInner := nukes.inner, nukesOuter := nukes.outer }
        (Inline.ofNode? (inline.map (Node.mk stamp)))), after)

/-- Read an element. Its inline node has the element's own stamp. -/
def read (stamp : Stamp) (text : List Char) (feed : Feed) : Reading Content :=
  match readHead text with
  | .error fault => (.error fault, feed)
  | .ok (name, selectors, rest) =>
    match readSelectors selectors with
    | .error fault => (.error fault, feed)
    | .ok (classes, id) =>
      match readAttributes rest feed with
      | (.error fault, after) => (.error fault, after)
      | (.ok (attributes, tail), after) =>
        readTail stamp
          { name := String.ofList name, classes := String.ofList classes,
            id := String.ofList id, attributes := String.ofList attributes } tail after

end HamlTree.Element
