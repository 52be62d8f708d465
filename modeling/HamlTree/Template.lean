import HamlTree.Arena
import HamlTree.FilterBlock
import HamlTree.Line

/-!
# Template -- from the lines of a template to its tree

`Template.parse` reads a template line by line. Between two lines a `State` holds the nodes made
so far, the container that receives the next one (`current`) with the containers around it
(`stack`), the lines still to come, the open indentation levels and the filter being read, if one
is.

One `State.step` reads one logical line:

1. While a filter is open, the raw line goes to its collector. If that ends the filter, its node
   is made and the same line is read in the usual way.
2. Otherwise the line's indentation closes and opens containers, and then its text is read. Each
   further physical line that was folded into it gets a blank node.

Opening a level makes the youngest child of `current` the container. Blank nodes after that child
belong to what follows, so they move into it and become its first children. Nothing can stand
below text, a doctype, a self-closing element, a comment with text of its own, or a filter.

A step takes at least one line, so there are at most as many steps as lines.
-/

set_option autoImplicit false

namespace HamlTree.Template

open Indentation FilterBlock

/-- What is known between two lines. `lineno` is the first physical line of the logical line read
last; `stack` has the innermost container first. -/
structure State where
  arena : Arena := .empty
  current : NodeId := Arena.root
  stack : List NodeId := []
  feed : Feed
  indent : Tracker := {}
  filter : Collector := {}
  lineno : Nat := 0
deriving DecidableEq, Repr

/-- Why nothing may stand below a node with this content, if so. -/
def nestingFault? : Content → Option Fault
  | .text .. => some .nestedInText
  | .doctype .. => some .nestedInHeader
  | .element tag _ => if tag.selfClosing then some .nestedInSelfClosing else none
  | .htmlComment text _ => if text.isEmpty then none else some .nestedInComment
  | .filter .. | .blank => some .nestedInFilter
  | .root | .script .. | .silentScript .. | .authorComment => none

namespace State

/-- Before the first line. -/
def ofSource (source : List Char) (filename : Option String) : State :=
  { feed := .ofSource filename source }

/-- The current container is a comment for the author. -/
def inAuthorComment (state : State) : Bool :=
  state.arena.isAuthorComment state.current

/-- The stamp of a node on this line. -/
def stampAt (state : State) (lineno : Nat) : Stamp :=
  ⟨state.feed.filename, lineno⟩

/-- Make a node the youngest child of the current container. -/
def addNode (state : State) (node : Node) : State :=
  { state with arena := (state.arena.append state.current node).2 }

/-- Add a node for the line being read. -/
def add (state : State) (content : Content) : State :=
  state.addNode ⟨state.stampAt state.lineno, content⟩

/-- Add blank nodes for these lines. -/
def addBlanks (state : State) (linenos : List Nat) : State :=
  linenos.foldl (fun state lineno => state.addNode ⟨state.stampAt lineno, .blank⟩) state

/-! ## Changes of depth -/

/-- Make the youngest child of the current container the container. -/
def enter (state : State) : Except Fault State :=
  let (blanks, arena) := state.arena.takeTrailingBlanks state.current
  match arena.lastChild? state.current with
  | none => .error .indentedStart
  | some target =>
    match (arena.content? target).bind nestingFault? with
    | some fault => .error fault
    | none =>
      let entered := { state with
        arena := arena.prependChildren target blanks
        current := target
        stack := state.current :: state.stack }
      if entered.inAuthorComment then
        .ok { entered with indent := entered.indent.enterComment }
      else
        match entered.indent.checkStep with
        | .ok () => .ok entered
        | .error fault => .error fault

/-- Go back to the container around the current one. -/
def leave (state : State) : State :=
  match state.stack with
  | [] => state
  | parent :: rest => { state with current := parent, stack := rest }

/-- Follow a change of depth. -/
def apply (state : State) : Event → Except Fault State
  | .enter _ => state.enter
  | .leave _ => .ok state.leave

/-- Follow several changes of depth. -/
def applyAll : List Event → State → Except Fault State
  | [], state => .ok state
  | event :: rest, state =>
    match state.apply event with
    | .ok next => applyAll rest next
    | .error fault => .error fault

/-! ## One line -/

/-- Read a line's text into the current container. -/
def readText (state : State) (text : List Char) : Except Fault State :=
  if text.isEmpty then .ok (state.add .blank)
  else if state.inAuthorComment then .ok (state.add (Expression.words text true))
  else
    match Line.read (state.stampAt state.lineno) text state.feed with
    | (.error fault, _) => .error fault
    | (.ok meaning, feed) =>
      let after := { state with feed }
      match meaning with
      | .node content => .ok (after.add content)
      | .filter name => .ok { after with filter := .start name (after.stampAt after.lineno) }
      | .nothing => .ok after

/-- Follow a line's indentation, then read its text. -/
def readLine (state : State) (line : List Char) : Except Fault State :=
  match state.indent.process line with
  | (_, .error fault) => .error fault
  | (indent, .ok processed) =>
    match applyAll processed.events { state with indent } with
    | .error fault => .error fault
    | .ok entered => entered.readText processed.text

/-- Read a logical line that was just taken, and account for the lines folded into it. -/
def readLogical (state : State) (line : List Char) : Except SyntaxError State :=
  let folded := line.count '\n'
  let started := { state with lineno := state.feed.lineno - folded }
  match started.readLine (line.filter (· != '\n')) with
  | .error fault => .error ⟨fault, started.lineno, none⟩
  | .ok after => .ok (after.addBlanks (List.range' (started.lineno + 1) folded))

/-! ## Filters -/

/-- Add the node of a finished filter, and blank nodes for the blank lines at its end, the last of
which is line `last`. -/
def addFilter (state : State) (block : Finished) (last : Nat) : State :=
  (state.addNode block.node).addBlanks
    (List.range' (last + 1 - block.trailingBlanks) block.trailingBlanks)

/-- Give a raw line to the filter being read. -/
def collect (state : State) (line : List Char) : State :=
  let lineno := state.feed.lineno
  match state.filter.append line state.indent.current with
  | (filter, none) => { state with filter, lineno }
  | (filter, some block) => { state with filter, lineno }.addFilter block (lineno - 1)

/-! ## The whole template -/

/-- Read one logical line, or one raw line of a filter. -/
def step (state : State) : Except SyntaxError State :=
  let inFilter := !state.inAuthorComment && state.filter.isOpen
  match state.feed.take inFilter with
  | none => .ok state
  | some (line, feed) =>
    let taken := { state with feed }
    let collected := if inFilter then taken.collect line else taken
    if collected.filter.isOpen then .ok collected else collected.readLogical line

/-- Read lines until none is left, in at most `fuel` steps. -/
def runAux : Nat → State → Except SyntaxError State
  | 0, state => .ok state
  | fuel + 1, state =>
    if state.feed.hasNext then
      match state.step with
      | .ok next => runAux fuel next
      | .error error => .error error
    else .ok state

/-- Read all lines. -/
def run (state : State) : Except SyntaxError State :=
  runAux state.feed.pending.length state

/-- Finish the filter that the template ends in, and close all levels. -/
def finish (state : State) : Except SyntaxError State :=
  let flushed :=
    match state.filter.finish with
    | (filter, none) => { state with filter }
    | (filter, some block) => { state with filter }.addFilter block state.feed.lineno
  let (indent, events) := flushed.indent.finish
  match applyAll events { flushed with indent } with
  | .ok final => .ok final
  | .error fault => .error ⟨fault, flushed.lineno, none⟩

end State

/-- The tree of a template, or the first thing wrong with it. `filename` goes on every node and on
the error. -/
def parse (source : List Char) (filename : Option String := none) : Except SyntaxError Arena :=
  match (State.ofSource source filename).run.bind State.finish with
  | .ok state => .ok state.arena
  | .error error => .error (error.withFilename filename)

end HamlTree.Template
