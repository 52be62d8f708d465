/-!
# Fault -- what can be wrong with a template, and where

Reading a template stops at the first fault. A `Fault` is the cause alone; `Fault.message` is its
wording. The reader that meets one knows the line, and whoever asked for the reading knows the
name of the template, so both are added outside: `Located` pairs a cause with its one-based line
and, when known, the template's name. A name once given is kept, and `Located.display` writes
`name:line: message` with a name and `message (line n)` without.
-/

set_option autoImplicit false

namespace HamlTree

/-- The causes for which a template is refused. -/
inductive Fault where
  /-- A tab stands in the indentation. -/
  | hardTab
  /-- A line steps back to a level that is not open; `levels` are the open ones, outermost first. -/
  | unknownLevel (level : Nat) (levels : List Nat)
  /-- A nesting step is `found` wide where the step before it is `expected` wide. -/
  | unevenStep (found expected : Nat)
  /-- The first line with content is indented. -/
  | indentedStart
  /-- A line is nested below plain text. -/
  | nestedInText
  /-- A line is nested below a doctype. -/
  | nestedInHeader
  /-- A line is nested below a self-closing element. -/
  | nestedInSelfClosing
  /-- A line is nested below a comment that has text on its own line. -/
  | nestedInComment
  /-- A line is nested below a finished filter or a blank line. -/
  | nestedInFilter
  /-- The line starts like an element and is none. -/
  | badElement
  /-- A class or id sign has no name after it. -/
  | namelessSelector
  /-- A brace of an attribute group stays open. -/
  | openBrace
  /-- A parenthesis of an attribute group stays open. -/
  | openParen
  /-- A self-closing element has content. -/
  | selfClosingContent
  /-- An output sign has no code after it. -/
  | missingCode
  /-- The bracket of a conditional comment stays open. -/
  | openCondition
  /-- A filter line does not hold exactly one name; `text` is the line. -/
  | badFilterName (text : String)
deriving DecidableEq, Repr

namespace Fault

/-- Levels in brackets, with a comma and a blank between neighbours. -/
def levelList (levels : List Nat) : String :=
  "[" ++ ", ".intercalate (levels.map Nat.repr) ++ "]"

/-- The wording of a fault. -/
def message : Fault → String
  | hardTab => "Indenting with hard tabs is not allowed."
  | unknownLevel level levels =>
    "Unexpected indent level: " ++ level.repr ++ ": indent_level=" ++ levelList levels
  | unevenStep found expected =>
    "Inconsistent indentation: " ++ found.repr ++ " spaces used for indentation, but the rest of " ++
      "the document was indented using " ++ expected.repr ++ " spaces"
  | indentedStart => "Indenting at the beginning of the document is illegal."
  | nestedInText => "Illegal nesting: nesting within plain text is illegal."
  | nestedInHeader => "Illegal nesting: nesting within a header command is illegal."
  | nestedInSelfClosing => "Illegal nesting: nesting within a self-closing tag is illegal."
  | nestedInComment =>
    "Illegal nesting: nesting within a html comment that already has content is illegal."
  | nestedInFilter => "Illegal nesting: nesting within a filter is illegal."
  | badElement => "Invalid element declaration"
  | namelessSelector => "Illegal element: classes and ids must have values."
  | openBrace => "Unmatched brace"
  | openParen => "Unmatched paren"
  | selfClosingContent => "Self-closing tags can't have content."
  | missingCode => "No code to evaluate"
  | openCondition => "Unmatched brackets in conditional comment"
  | badFilterName text => "Invalid filter name: " ++ text

end Fault

/-- A cause with the one-based line it was met on and, when known, the template's name. -/
structure Located (Cause : Type) where
  cause : Cause
  lineno : Nat
  filename : Option String := none
deriving DecidableEq, Repr

namespace Located

/-- Add the template's name, keeping one that is already there. -/
def withFilename {Cause : Type} (error : Located Cause) (filename : Option String) :
    Located Cause :=
  { error with filename := error.filename.or filename }

/-- One line of text for the error, given the wording of its cause. -/
def display {Cause : Type} (wording : Cause → String) (error : Located Cause) : String :=
  match error.filename with
  | some filename => filename ++ ":" ++ error.lineno.repr ++ ": " ++ wording error.cause
  | none => wording error.cause ++ " (line " ++ error.lineno.repr ++ ")"

end Located

/-- The error that ends the reading of a template. -/
abbrev SyntaxError := Located Fault

namespace SyntaxError

/-- The wording of the cause. -/
def message (error : SyntaxError) : String :=
  error.cause.message

/-- One line of text for the error. -/
def display (error : SyntaxError) : String :=
  Located.display Fault.message error

end SyntaxError

end HamlTree
