import HamlTree.Arena

/-!
# Tree -- an arena unfolded from its root

A `Tree` is a node with the trees below it. `Arena.unfold` follows the child lists of an arena
down from one of its nodes. The lists of an arena in use have no cycles, so no path down is longer
than the arena has nodes, which bounds the depth to unfold. A node that two lists name appears in
both places.

The nodes of a tree in document order, each before those below it, are `Tree.preorder`.
`Arena.walk` visits the same nodes in the same order without unfolding anything, with a stack of
the numbers still to visit.

A tree leaves out what is below the node on an element's own line. `Arena.fold` goes down there as
well: it makes a value of a node when the values of its children are known, and those of the children
of its inline nodes.
-/

set_option autoImplicit false

namespace HamlTree

/-- A node, the number it is stored under, and the trees below it. -/
inductive Tree where
  | node (id : NodeId) (node : Node) (children : List Tree)
deriving Repr

namespace Tree

mutual

/-- The numbers of a tree's nodes, each before those below it. -/
def preorder : Tree → List NodeId
  | .node id _ children => id :: preorderAll children

/-- The numbers of the nodes of several trees in turn. -/
def preorderAll : List Tree → List NodeId
  | [] => []
  | tree :: rest => preorder tree ++ preorderAll rest

end

/-- How many nodes the tree has. -/
def size (tree : Tree) : Nat :=
  tree.preorder.length

end Tree

namespace Arena

/-- The tree below a node, down to `depth` nodes deep. -/
def unfoldTo (arena : Arena) : Nat → NodeId → Option Tree
  | 0, _ => none
  | depth + 1, id =>
    (arena.slots[id]?).map fun slot =>
      .node id slot.node (slot.children.filterMap (unfoldTo arena depth))

/-- The tree below a node. -/
def unfold (arena : Arena) (id : NodeId) : Option Tree :=
  arena.unfoldTo arena.size id

/-- The tree below the root. -/
def tree (arena : Arena) : Tree :=
  (arena.unfold root).getD (.node root ⟨{}, .root⟩ [])

/-- Visit the top of the stack and put its children on the stack instead, at most `fuel` times. -/
def visit (arena : Arena) : Nat → List NodeId → List NodeId
  | 0, _ => []
  | _ + 1, [] => []
  | fuel + 1, id :: stack => id :: visit arena fuel (arena.children id ++ stack)

/-- The nodes below the root in document order, the root first. -/
def walk (arena : Arena) : List NodeId :=
  arena.visit arena.tree.size [root]

/-- What `make` comes to for a node, from what it comes to for the nodes on its child lists and on those
of its inline nodes, down to `depth` nodes deep. Where no node is stored it is `missing`. -/
def foldTo {α : Type} (arena : Arena) (make : Node α → List α → α) (missing : α) : Nat → NodeId → α
  | 0, _ => missing
  | depth + 1, id =>
    match arena.slots[id]? with
    | some slot =>
      let below := foldTo arena make missing depth
      make (slot.node.map below) (slot.children.map below)
    | none => missing

/-- What `make` comes to for a node and all below it. -/
def fold {α : Type} (arena : Arena) (make : Node α → List α → α) (missing : α) (id : NodeId) : α :=
  arena.foldTo make missing arena.size id

end Arena

end HamlTree
