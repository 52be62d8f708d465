import HamlTree.Text.Lines

/-!
# SourceContext -- the lines around an error

An error report shows the line the error was met on between up to two lines before it and up to
two lines after it, each with its number, and marks the line itself. `SourceContext.window`
chooses the lines and `SourceContext.render` writes them. A line number past the end leaves the
mark out, and one far enough past it leaves nothing to show.
-/

set_option autoImplicit false

namespace HamlTree.SourceContext

/-- One line of the report. -/
structure Row where
  marked : Bool
  number : Nat
  text : List Char
deriving DecidableEq, Repr

/-- The rows around the one-based line `lineno`. -/
def window (source : List Char) (lineno : Nat) : List Row :=
  let centre := lineno - 1
  (((Text.lines source).zipIdx.take (centre + 3)).drop (centre - 2)).map fun (text, index) =>
    ⟨index == centre, index + 1, text⟩

/-- The digits of a number after as many blanks as fill three places. -/
def paddedNumber (n : Nat) : List Char :=
  let digits := n.repr.toList
  List.replicate (3 - digits.length) ' ' ++ digits

/-- A row as it is shown, with its line feed. -/
def Row.render (row : Row) : List Char :=
  (if row.marked then ['>', '>'] else [' ', ' ']) ++ ' ' :: paddedNumber row.number ++
    ' ' :: '|' :: ' ' :: row.text ++ ['\n']

/-- The report for an error on the one-based line `lineno`. -/
def render (source : List Char) (lineno : Nat) : List Char :=
  (window source lineno).flatMap Row.render

end HamlTree.SourceContext
