import HamlTree.Text.Lines
import HamlTree.Text.Trim
import HamlTree.Tree

/-!
# Drawing -- a tree as an outline of lines

One line per node in document order. A line shows, from left to right, the number of the template
line if asked for, bars for the nodes around it that have further children, a corner or a branch,
the icon of the kind, and a short label:

    ⧉ template
    ├─ ‼ !!! 5
    └─ ⊞ %html
      ├─ ⊞ %head
      └─ − if user
        └─ = user.name

The root's line has only icon and label. Labels are cut after thirty characters, line feeds in
them become blanks, and no line ends in white space.
-/

set_option autoImplicit false

namespace HamlTree.Drawing

open Text

/-- The most characters a label shows. -/
def labelWidth : Nat := 30

/-- The icon of a kind. -/
def icon : Content → Char
  | .root => '⧉'
  | .doctype .. => '‼'
  | .element .. => '⊞'
  | .script .. => '='
  | .silentScript .. => '−'
  | .htmlComment .. => '⁄'
  | .authorComment => '♯'
  | .text .. => '◦'
  | .filter .. => 'ƒ'
  | .blank => '∅'

/-! ## Labels -/

/-- An element's inline node as it was written. -/
def inlineText : Content → List Char
  | .script code .. => '=' :: ' ' :: code.toList
  | .silentScript code .. => '-' :: ' ' :: code.toList
  | .text text _ => text.toList
  | _ => []

/-- The text after a sign, or nothing when there is none. -/
def signed (before : List Char) (text : List Char) (after : List Char) : List Char :=
  if text.isEmpty then [] else before ++ text ++ after

/-- The head of an element. -/
def tagLabel (tag : Tag) : List Char :=
  '%' :: tag.name.toList ++ (words tag.classes.toList).flatMap (fun name => '.' :: name) ++
    signed ['#'] tag.id.toList [] ++ signed ['{'] tag.attributes.toList ['}'] ++
    (if tag.selfClosing then ['/'] else [])

/-- What a node says about itself, in full. -/
def fullLabel : Content → List Char
  | .root => "template".toList
  | .doctype declaration => trimEnd ("!!! ".toList ++ declaration.toList)
  | .element tag .none => tagLabel tag
  | .element tag (.node _ content _) => tagLabel tag ++ ' ' :: inlineText content
  | .script code .. => code.toList
  | .silentScript code .. => code.toList
  | .htmlComment text condition =>
    if condition.isEmpty then text.toList
    else '[' :: condition.toList ++ ']' :: ' ' :: text.toList
  | .authorComment => []
  | .text text _ => text.toList
  | .filter name _ => ':' :: name.toList
  | .blank => []

/-- The label on one line. -/
def label (content : Content) : List Char :=
  (fullLabel content).map fun c => if c == '\n' then ' ' else c

/-- A text cut to `width` characters, with dots for what was cut. -/
def shorten (width : Nat) (text : List Char) : List Char :=
  if width < text.length then text.take width ++ ['.', '.', '.'] else text

/-! ## Lines -/

/-- The number of a template line, with two places at least, and a blank. -/
def lineNumber (n : Nat) : List Char :=
  let digits := n.repr.toList
  List.replicate (2 - digits.length) '0' ++ digits ++ [' ']

/-- The line number a node shows. The root stands on no line. -/
def shownLineno (node : Node) : Nat :=
  match node.content with
  | .root => 0
  | _ => node.stamp.lineno

/-- The line of a node below the root. `bars` come from the nodes around it; `isLast` says that no
further child of its parent follows. -/
def nodeLine (numbered : Bool) (bars : List Char) (isLast : Bool) (node : Node) : List Char :=
  trimEnd <|
    (if numbered then lineNumber (shownLineno node) else []) ++ bars ++
      (if isLast then ['└', '─'] else ['├', '─']) ++ ' ' :: icon node.content :: ' ' ::
      shorten labelWidth (label node.content)

/-- The bars below a node. -/
def barsBelow (bars : List Char) (isLast : Bool) : List Char :=
  bars ++ if isLast then [' ', ' '] else ['│', ' ']

mutual

/-- The lines of a tree below the root. -/
def treeLines (numbered : Bool) (bars : List Char) (isLast : Bool) : Tree → List (List Char)
  | .node _ node children =>
    nodeLine numbered bars isLast node :: forestLines numbered (barsBelow bars isLast) children

/-- The lines of the trees below one node. -/
def forestLines (numbered : Bool) (bars : List Char) : List Tree → List (List Char)
  | [] => []
  | tree :: rest =>
    treeLines numbered bars rest.isEmpty tree ++ forestLines numbered bars rest

end

/-- The lines of a whole tree. -/
def lines (numbered : Bool) : Tree → List (List Char)
  | .node _ node children =>
    (icon node.content :: ' ' :: label node.content) :: forestLines numbered [] children

/-- A tree as text, each line with its line feed. -/
def render (numbered : Bool) (tree : Tree) : List Char :=
  (lines numbered tree).flatMap (· ++ ['\n'])

end HamlTree.Drawing
