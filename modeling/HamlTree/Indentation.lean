import HamlTree.Fault

/-!
# Indentation -- nesting from leading blanks

A `Tracker` knows the indentation levels that are open: the innermost, `current`, and those that
enclose it. A line with content is compared with them.

* Deeper than `current`: its level opens and one `Event.enter` results.
* Shallower: one `Event.leave` per level that closes, and the line must land on an open level.
* A blank line changes nothing.

Inside an author's comment the text is free: once `Tracker.enterComment` was called, lines deeper
than the comment itself neither open nor close a level. A line back at the comment's level, or
before it, ends that mode.

`Tracker.checkStep` compares the last two steps, which have to be equally wide. A failed
`Tracker.process` leaves behind the levels as far as they had closed.
-/

set_option autoImplicit false

namespace HamlTree.Indentation

/-- Blanks and tabs make up the indentation; other white space belongs to the text. -/
def isIndent (c : Char) : Bool :=
  c == ' ' || c == '\t'

/-- A line's indentation and the text after it. -/
def split (line : List Char) : List Char × List Char :=
  (line.takeWhile isIndent, line.dropWhile isIndent)

/-- A change of depth, with the level of the line that caused it. -/
inductive Event where
  | enter (level : Nat)
  | leave (level : Nat)
deriving DecidableEq, Repr

/-- The open levels. `commentLevel` is the level of the author's comment being read, if one is. -/
structure Tracker where
  current : Nat := 0
  enclosing : List Nat := []
  commentLevel : Option Nat := none
deriving DecidableEq, Repr

/-- A line taken apart, with the changes of depth it causes. -/
structure Processed where
  text : List Char
  indent : List Char
  events : List Event
deriving DecidableEq, Repr

/-- Close levels above `level`: the innermost level left, those around it, and how many closed. -/
def closeAbove (level : Nat) : Nat → List Nat → Nat × List Nat × Nat
  | current, [] => (current, [], 0)
  | current, outer :: others =>
    if level < current then
      let (kept, around, closed) := closeAbove level outer others
      (kept, around, closed + 1)
    else (current, outer :: others, 0)

/-- Close one level after the other until only the outermost is left, with an event for each. -/
def closeAll : Nat → List Nat → Nat × List Event
  | outermost, [] => (outermost, [])
  | _, outer :: others =>
    let (outermost, events) := closeAll outer others
    (outermost, .leave 0 :: events)

namespace Tracker

/-- The open levels, outermost first. -/
def levels (tracker : Tracker) : List Nat :=
  (tracker.current :: tracker.enclosing).reverse

/-- How many levels are open besides the outermost. -/
def depth (tracker : Tracker) : Nat :=
  tracker.enclosing.length

/-- The body of an author's comment is being read. -/
def inComment (tracker : Tracker) : Bool :=
  tracker.commentLevel.isSome

/-- Step back to a shallower level. -/
def leave (tracker : Tracker) (level : Nat) : Tracker × Except Fault (List Event) :=
  let (kept, around, closed) := closeAbove level tracker.current tracker.enclosing
  let after : Tracker := ⟨kept, around, none⟩
  if level = kept then (after, .ok (List.replicate closed (.leave level)))
  else (after, .error (.unknownLevel level after.levels))

/-- Compare the level of a line with content. -/
def track (tracker : Tracker) (level : Nat) : Tracker × Except Fault (List Event) :=
  if tracker.current < level then
    if tracker.inComment then (tracker, .ok [])
    else
      ({ tracker with current := level, enclosing := tracker.current :: tracker.enclosing },
        .ok [.enter level])
  else if level < tracker.current then
    match tracker.commentLevel with
    | some comment => if comment < level then (tracker, .ok []) else tracker.leave level
    | none => tracker.leave level
  else (tracker, .ok [])

/-- Take a line apart and follow its indentation. -/
def process (tracker : Tracker) (line : List Char) : Tracker × Except Fault Processed :=
  let (indent, text) := split line
  if indent.contains '\t' then (tracker, .error .hardTab)
  else if text.isEmpty then (tracker, .ok ⟨text, indent, []⟩)
  else
    match tracker.track indent.length with
    | (after, .ok events) => (after, .ok ⟨text, indent, events⟩)
    | (after, .error fault) => (after, .error fault)

/-- Close every level at the end of the template. -/
def finish (tracker : Tracker) : Tracker × List Event :=
  let (outermost, events) := closeAll tracker.current tracker.enclosing
  (⟨outermost, [], none⟩, events)

/-- From now on the innermost level is the free text of a comment one level further out. -/
def enterComment (tracker : Tracker) : Tracker :=
  { tracker with commentLevel := tracker.enclosing.head? }

/-- The innermost step is as wide as the one around it. -/
def checkStep (tracker : Tracker) : Except Fault Unit :=
  match tracker.enclosing with
  | outer :: outermost :: _ =>
    let expected := outer - outermost
    let found := tracker.current - outer
    if expected = found then .ok () else .error (.unevenStep found expected)
  | _ => .ok ()

end Tracker

end HamlTree.Indentation
