/-!
# Bracket -- finding the closer that matches

`Bracket.scan` reads a text inside `depth` open brackets up to the closer that brings the depth to
zero. Quotes have no meaning here. A character that is both opener and closer counts as an opener,
so such a scan never closes.
-/

set_option autoImplicit false

namespace HamlTree.Bracket

/-- The two characters of a bracket pair. -/
structure Pair where
  opener : Char
  closer : Char
deriving DecidableEq, Repr

/-- How far a scan came. `inside` stands before the matching closer and `rest` after it; when the
text ends first, `inside` is the whole text and `depth` the number of brackets still open. -/
structure Scan where
  inside : List Char
  rest : List Char
  depth : Nat
deriving DecidableEq, Repr

namespace Scan

/-- No bracket is left open. -/
def isBalanced (result : Scan) : Bool :=
  result.depth == 0

/-- Put a character read before the rest of the scan in front of its inside. -/
def cons (c : Char) (result : Scan) : Scan :=
  { result with inside := c :: result.inside }

end Scan

/-- Read up to the closer that brings `depth` to zero. -/
def scan (pair : Pair) : Nat → List Char → Scan
  | depth, [] => ⟨[], [], depth⟩
  | depth, c :: rest =>
    if c = pair.opener then (scan pair (depth + 1) rest).cons c
    else if c = pair.closer then
      if depth ≤ 1 then ⟨[], rest, 0⟩ else (scan pair (depth - 1) rest).cons c
    else (scan pair depth rest).cons c

end HamlTree.Bracket
