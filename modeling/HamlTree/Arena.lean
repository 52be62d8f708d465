import HamlTree.Node
import HamlTree.Text.Trim

/-!
# Arena -- the nodes of a template in the order they were made

An `Arena` stores every node once, under the number of its creation, with the numbers of its
children beside it. Number 0 is the root. Moving a node is taking its number off one list and
putting it on another. A leaf refuses children: every operation that would give it one leaves the
arena as it is, and `Arena.isContainer` says beforehand which way it goes.
-/

set_option autoImplicit false

namespace HamlTree

/-- A stored node and its children, in order. -/
structure Slot where
  node : Node
  children : List NodeId := []
deriving DecidableEq, Repr

/-- The nodes made so far. -/
structure Arena where
  slots : Array Slot
deriving DecidableEq, Repr

namespace Arena

/-- The number of the root. -/
def root : NodeId := 0

/-- The root alone. -/
def empty : Arena :=
  ⟨#[⟨⟨{}, .root⟩, []⟩]⟩

/-! ## Looking -/

/-- How many nodes are stored. -/
def size (arena : Arena) : Nat :=
  arena.slots.size

/-- The node with this number. -/
def node? (arena : Arena) (id : NodeId) : Option Node :=
  (arena.slots[id]?).map Slot.node

/-- The content of the node with this number. -/
def content? (arena : Arena) (id : NodeId) : Option Content :=
  (arena.node? id).map Node.content

/-- The children of a node, in order. -/
def children (arena : Arena) (id : NodeId) : List NodeId :=
  match arena.slots[id]? with
  | some slot => slot.children
  | none => []

/-- The node may have children. -/
def isContainer (arena : Arena) (id : NodeId) : Bool :=
  (arena.content? id).any Content.isContainer

/-- The node stands for an empty line. -/
def isBlank (arena : Arena) (id : NodeId) : Bool :=
  (arena.content? id).any Content.isBlank

/-- The node is a comment for the author. -/
def isAuthorComment (arena : Arena) (id : NodeId) : Bool :=
  (arena.content? id).any Content.isAuthorComment

/-- The youngest child of a node. -/
def lastChild? (arena : Arena) (id : NodeId) : Option NodeId :=
  (arena.children id).getLast?

/-- The root has no children. -/
def isEmpty (arena : Arena) : Bool :=
  (arena.children root).isEmpty

/-! ## Changing -/

/-- Change the child list of a container. -/
def updateChildren (arena : Arena) (id : NodeId) (change : List NodeId → List NodeId) : Arena :=
  if arena.isContainer id then
    ⟨arena.slots.modify id fun slot => { slot with children := change slot.children }⟩
  else arena

/-- Store a node without a parent; its number is the size so far. -/
def push (arena : Arena) (node : Node) : NodeId × Arena :=
  (arena.size, ⟨arena.slots.push ⟨node, []⟩⟩)

/-- Make `child` the youngest child of `parent`. -/
def attach (arena : Arena) (parent child : NodeId) : Arena :=
  arena.updateChildren parent (· ++ [child])

/-- Store a node and make it the youngest child of `parent`. It stays stored when the parent
refuses it. -/
def append (arena : Arena) (parent : NodeId) (node : Node) : NodeId × Arena :=
  let (id, stored) := arena.push node
  (id, stored.attach parent id)

/-- Take the youngest child off a node's list. -/
def popChild (arena : Arena) (id : NodeId) : Option NodeId × Arena :=
  (arena.lastChild? id, arena.updateChildren id List.dropLast)

/-- Take the empty lines at the end of a node's list off it, and list them in order. -/
def takeTrailingBlanks (arena : Arena) (id : NodeId) : List NodeId × Arena :=
  let before := arena.children id
  let kept := Text.dropEndWhile arena.isBlank before
  (before.drop kept.length, arena.updateChildren id fun _ => kept)

/-- Put nodes in front of a node's children. -/
def prependChildren (arena : Arena) (id : NodeId) (ids : List NodeId) : Arena :=
  arena.updateChildren id (ids ++ ·)

/-- Move a node to another line. -/
def setLineno (arena : Arena) (id : NodeId) (lineno : Nat) : Arena :=
  ⟨arena.slots.modify id fun slot =>
    { slot with node.stamp.lineno := lineno }⟩

end Arena

end HamlTree
