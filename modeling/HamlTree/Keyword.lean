import HamlTree.Text.Trim

/-!
# Keyword -- the block keywords of embedded code

Code that opens a block or goes on with one carries its keyword, so that a consumer can put
`if`/`else`/`end` chains together. `Keyword.detect` looks for it in a fixed order: a keyword that
continues a block at the start of the code, after an optional `-` and white space; then, for
output expressions only, a keyword that starts a block behind an assignment (`x, y = if …`); then
such a keyword at the start of the code. A keyword is always a whole word: the longest run of word
characters at its place.
-/

set_option autoImplicit false

namespace HamlTree

open Text

/-- The keywords that continue a block, and those that start one. -/
inductive Keyword where
  | elseArm
  | elsifArm
  | rescueArm
  | ensureArm
  | whenArm
  | endMark
  | ifBlock
  | unlessBlock
  | beginBlock
  | caseBlock
deriving DecidableEq, Repr

namespace Keyword

/-- All keywords. -/
def all : List Keyword :=
  [elseArm, elsifArm, rescueArm, ensureArm, whenArm, endMark,
   ifBlock, unlessBlock, beginBlock, caseBlock]

/-- A keyword as it is written. -/
def word : Keyword → String
  | elseArm => "else"
  | elsifArm => "elsif"
  | rescueArm => "rescue"
  | ensureArm => "ensure"
  | whenArm => "when"
  | endMark => "end"
  | ifBlock => "if"
  | unlessBlock => "unless"
  | beginBlock => "begin"
  | caseBlock => "case"

/-- The keyword goes on with a block that is already open. -/
def isMidBlock : Keyword → Bool
  | elseArm | elsifArm | rescueArm | ensureArm | whenArm | endMark => true
  | ifBlock | unlessBlock | beginBlock | caseBlock => false

/-- The keyword that is written like this. -/
def ofWord? (text : List Char) : Option Keyword :=
  all.find? fun keyword => keyword.word.toList == text

/-! ## Detection -/

/-- The keyword, of the sort asked for, that the text starts with. -/
def leading? (midBlock : Bool) (text : List Char) : Option Keyword :=
  (ofWord? (text.takeWhile isWord)).filter fun keyword => keyword.isMidBlock == midBlock

/-- Where the reader of an assignment's left side stands. -/
inductive NamesState where
  /-- At the start, where a name has to follow. -/
  | start
  /-- Inside a name. -/
  | name
  /-- Behind a comma, where a name has to follow after any white space. -/
  | comma
deriving DecidableEq, Repr

/-- What follows one name, or several with commas between them. -/
def afterNames? : NamesState → List Char → Option (List Char)
  | .name, [] => some []
  | .start, [] | .comma, [] => none
  | .start, c :: rest => if isWord c then afterNames? .name rest else none
  | .comma, c :: rest =>
    if isSpace c then afterNames? .comma rest
    else if isWord c then afterNames? .name rest
    else none
  | .name, c :: rest =>
    if isWord c then afterNames? .name rest
    else if c = ',' then afterNames? .comma rest
    else some (c :: rest)

/-- What follows an assignment sign and the names before it. -/
def afterAssignment? (text : List Char) : Option (List Char) :=
  match (afterNames? .start text).map trimStart with
  | some ('=' :: rest) => some (trimStart rest)
  | _ => none

/-- The code without the sign and the white space that may stand before it. -/
def body (code : List Char) : List Char :=
  match code with
  | '-' :: rest => trimStart rest
  | _ => trimStart code

/-- The block keyword that the code starts with. `assignable` lets an assignment stand before a
keyword that starts a block. -/
def detect (code : List Char) (assignable : Bool) : Option Keyword :=
  let start := body code
  let assigned := if assignable then (afterAssignment? start).bind (leading? false) else none
  ((leading? true start).or assigned).or (leading? false start)

end Keyword

end HamlTree
