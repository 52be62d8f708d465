import HamlTree.Fault
import HamlTree.Feed
import HamlTree.Node

/-!
# Expression -- output code and text

A line that no other sign claims, and what an element has on its own line, is read by its first
characters:

| start             | result                                          |
|-------------------|-------------------------------------------------|
| `=`, `~`          | code, put out (`~` preserves white space)       |
| `==`, `~=`        | text                                            |
| `&=`, `&~`        | code, put out escaped                           |
| `&==`, `&`        | text, escaped                                   |
| `!=`, `!~`        | code, put out unescaped                         |
| `!==`, `!`        | text, unescaped                                 |
| anything else     | text, or nothing when only white space is there |

Code that ends in a comma goes on over the lines that follow. Reading text takes no line.
-/

set_option autoImplicit false

namespace HamlTree

open Text

/-- The outcome of reading something that may take further lines, and the lines then left. -/
abbrev Reading (α : Type) := Except Fault α × Feed

namespace Expression

/-- Text as it stands. -/
def words (text : List Char) (escapes : Bool) : Content :=
  .text (String.ofList text) escapes

/-- Code after an output sign. -/
def code (text : List Char) (preserves escapes : Bool) (feed : Feed) : Reading Content :=
  let start := trimStart text
  if start.isEmpty then (.error .missingCode, feed)
  else
    let (whole, after) := feed.pullCode start
    (.ok (.script (String.ofList whole) (Keyword.detect whole true) escapes preserves), after)

/-- What follows a bare output sign: a second `=` makes it text. -/
def output (text : List Char) (preserves : Bool) (feed : Feed) : Reading Content :=
  match text with
  | '=' :: interpolated => (.ok (words (trim interpolated) true), feed)
  | _ => code text preserves true feed

/-- What follows `&` or `!`. -/
def flagged (text : List Char) (escapes : Bool) (feed : Feed) : Reading Content :=
  match text with
  | '=' :: '=' :: interpolated => (.ok (words (trimStart interpolated) escapes), feed)
  | '=' :: rest => code rest false escapes feed
  | '~' :: rest => code rest true escapes feed
  | _ => (.ok (words (trim text) escapes), feed)

/-- The reading of one content as that of at most one. -/
def present (reading : Reading Content) : Reading (Option Content) :=
  (reading.1.map some, reading.2)

/-- Read an output expression. White space alone is nothing. -/
def read (text : List Char) (feed : Feed) : Reading (Option Content) :=
  match text with
  | '=' :: rest => present (output rest false feed)
  | '~' :: rest => present (output rest true feed)
  | '&' :: rest => present (flagged rest true feed)
  | '!' :: rest => present (flagged rest false feed)
  | _ =>
    let start := trimStart text
    if start.isEmpty then (.ok none, feed) else (.ok (some (words start true)), feed)

end Expression

end HamlTree
