import HamlTree.Indentation
import HamlTree.Node
import HamlTree.Text.Trim

/-!
# FilterBlock -- collecting the body of a filter

A filter's body is every line after the filter line that is indented deeper than it. The lines are
kept as written, without the indentation of the first of them, so whatever goes beyond that
survives. A `Collector` takes one raw line at a time. The line that shows the block to be over is
not part of it: `Collector.append` then hands back the finished block, and the caller reads the
line in the usual way. Blank lines at the end of a body are cut from it and counted.
-/

set_option autoImplicit false

namespace HamlTree.FilterBlock

/-- A filter whose body is still being read. -/
structure Draft where
  name : String
  stamp : Stamp
  texts : List String := []
deriving DecidableEq, Repr

/-- A filter that is finished, with the number of blank lines cut from the end of its body. -/
structure Finished where
  name : String
  stamp : Stamp
  texts : List String
  trailingBlanks : Nat
deriving DecidableEq, Repr

/-- The node of a finished filter. -/
def Finished.node (block : Finished) : Node :=
  ⟨block.stamp, .filter block.name block.texts⟩

/-- Cut the blank lines off the end of the body. -/
def Draft.finish (draft : Draft) : Finished :=
  let kept := Text.dropEndWhile String.isEmpty draft.texts
  ⟨draft.name, draft.stamp, kept, draft.texts.length - kept.length⟩

/-- The filter being read, if any, and the indentation of its body once a line has fixed it. -/
structure Collector where
  draft : Option Draft := none
  bodyIndent : Option Nat := none
deriving DecidableEq, Repr

namespace Collector

/-- A filter is being read. -/
def isOpen (collector : Collector) : Bool :=
  collector.draft.isSome

/-- Open a filter. -/
def start (name : String) (stamp : Stamp) : Collector :=
  ⟨some { name, stamp }, none⟩

/-- Add a line to the body. -/
def pushText (collector : Collector) (text : List Char) : Collector :=
  { collector with
    draft := collector.draft.map fun draft =>
      { draft with texts := draft.texts ++ [String.ofList text] } }

/-- Finish the filter that is being read. -/
def close (collector : Collector) : Collector × Option Finished :=
  match collector.draft with
  | none => (collector, none)
  | some draft => ({}, some draft.finish)

/-- Take one raw line; `level` is the indentation of the filter line. -/
def append (collector : Collector) (line : List Char) (level : Nat) :
    Collector × Option Finished :=
  let (indent, text) := Indentation.split line
  if text.isEmpty then (collector.pushText [], none)
  else
    match collector.bodyIndent with
    | some body =>
      if indent.length < body then collector.close
      else (collector.pushText (line.drop body), none)
    | none =>
      if level < indent.length then
        ({ collector with bodyIndent := some indent.length }.pushText text, none)
      else collector.close

/-- Finish at the end of the template. -/
def finish (collector : Collector) : Collector × Option Finished :=
  collector.close

end Collector

end HamlTree.FilterBlock
