import HamlTree.Tree

/-!
# RoseTrees -- trees of values, and their rows

A `RoseTree` is what is left of a `Tree` when each node is replaced by a value made from it
(`Tree.label`): values in the order and nesting of the nodes, and nothing of how they are stored.

Its `rows` are the values in document order with their depths, one row per node. They determine the
tree (`RoseTree.eq_of_rows`), since the rows below a node are deeper than it and the first row after
them is not.

Both kinds of tree have lists of trees in them. Induction goes over such a list: what holds of the
trees below the first one and of those behind it holds of all (`forest_induction`).
-/

set_option autoImplicit false

namespace HamlTree

/-- Values in the order and nesting of a tree. -/
inductive RoseTree (α : Type) where
  | node (value : α) (children : List (RoseTree α))
deriving Repr

namespace RoseTree

variable {α : Type}

/-- Induction over trees side by side. -/
@[elab_as_elim]
theorem forest_induction {motive : List (RoseTree α) → Prop} (nil : motive [])
    (cons : ∀ value below rest, motive below → motive rest → motive (.node value below :: rest)) :
    ∀ trees, motive trees
  | [] => nil
  | .node value below :: rest =>
    cons value below rest (forest_induction nil cons below) (forest_induction nil cons rest)

mutual

/-- The values and their depths, each before those below it. -/
def rows (depth : Nat) : RoseTree α → List (Nat × α)
  | .node value children => (depth, value) :: rowsAll (depth + 1) children

/-- The rows of several trees in turn. -/
def rowsAll (depth : Nat) : List (RoseTree α) → List (Nat × α)
  | [] => []
  | tree :: rest => rows depth tree ++ rowsAll depth rest

end

/-- These rows go on at a smaller depth, or not at all. -/
def EndsBelow (depth : Nat) (rows : List (Nat × α)) : Prop :=
  ∀ row, rows.head? = some row → row.1 < depth

theorem not_endsBelow_node {depth : Nat} {value : α} {rows : List (Nat × α)} :
    ¬ EndsBelow depth ((depth, value) :: rows) :=
  fun ends => Nat.lt_irrefl depth (ends _ rfl)

/-- Behind the trees below a node come its younger siblings or something less deep. -/
theorem endsBelow_rowsAll_append {depth : Nat} {after : List (Nat × α)} (ends : EndsBelow depth after)
    (trees : List (RoseTree α)) : EndsBelow (depth + 1) (rowsAll depth trees ++ after) := by
  intro row first
  cases trees with
  | nil => exact Nat.lt_succ_of_lt (ends row first)
  | cons tree rest =>
      obtain ⟨value, below⟩ := tree
      cases first
      exact Nat.lt_succ_self depth

/-- Rows can be read in one way only, up to where something less deep follows. -/
theorem rowsAll_append_inj {trees others : List (RoseTree α)} {depth : Nat}
    {after otherAfter : List (Nat × α)} (ends : EndsBelow depth after)
    (otherEnds : EndsBelow depth otherAfter)
    (same : rowsAll depth trees ++ after = rowsAll depth others ++ otherAfter) :
    trees = others ∧ after = otherAfter := by
  induction trees using forest_induction generalizing others depth after otherAfter with
  | nil =>
      cases others with
      | nil => exact ⟨rfl, same⟩
      | cons other rest =>
          obtain ⟨value, below⟩ := other
          simp only [rowsAll, rows, List.nil_append, List.cons_append] at same
          exact absurd (same ▸ ends) not_endsBelow_node
  | cons value below rest belowIh restIh =>
      cases others with
      | nil =>
          simp only [rowsAll, rows, List.nil_append, List.cons_append] at same
          exact absurd (same ▸ otherEnds) not_endsBelow_node
      | cons other otherRest =>
          obtain ⟨otherValue, otherBelow⟩ := other
          simp only [rowsAll, rows, List.cons_append, List.append_assoc, List.cons.injEq,
            Prod.mk.injEq, true_and] at same
          obtain ⟨rfl, same⟩ := same
          obtain ⟨rfl, behind⟩ := belowIh (endsBelow_rowsAll_append ends rest)
            (endsBelow_rowsAll_append otherEnds otherRest) same
          obtain ⟨rfl, rfl⟩ := restIh ends otherEnds behind
          exact ⟨rfl, rfl⟩

theorem rowsAll_singleton (depth : Nat) (tree : RoseTree α) :
    rowsAll depth [tree] = tree.rows depth := by
  simp [rowsAll]

/-- Trees with the same rows are equal. -/
theorem eq_of_rows {tree other : RoseTree α} {depth : Nat}
    (same : tree.rows depth = other.rows depth) : tree = other := by
  have ends : EndsBelow depth ([] : List (Nat × α)) := by intro row first; cases first
  have whole : rowsAll depth [tree] ++ [] = rowsAll depth [other] ++ [] := by
    rw [rowsAll_singleton, rowsAll_singleton, same]
  exact (List.cons.inj (rowsAll_append_inj ends ends whole).1).1

end RoseTree

/-! ## Labels in place of nodes -/

namespace Tree

variable {α β : Type}

/-- Induction over trees side by side. -/
@[elab_as_elim]
theorem forest_induction {motive : List Tree → Prop} (nil : motive [])
    (cons : ∀ id entry below rest, motive below → motive rest →
      motive (.node id entry below :: rest)) :
    ∀ trees, motive trees
  | [] => nil
  | .node id entry below :: rest =>
    cons id entry below rest (forest_induction nil cons below) (forest_induction nil cons rest)

mutual

/-- The tree with what `value` makes of its depth, its number and itself in place of each node. -/
def label (value : Nat → NodeId → Node → α) (depth : Nat) : Tree → RoseTree α
  | .node id entry children => .node (value depth id entry) (labelAll value (depth + 1) children)

/-- The same for several trees in turn. -/
def labelAll (value : Nat → NodeId → Node → α) (depth : Nat) : List Tree → List (RoseTree α)
  | [] => []
  | tree :: rest => label value depth tree :: labelAll value depth rest

end

/-- The nodes in document order, with their depths and the numbers they are stored under. -/
def visits (tree : Tree) : List (Nat × NodeId × Node) :=
  (tree.label (fun _ id entry => (id, entry)) 0).rows 0

theorem rowsAll_labelAll (value : Nat → NodeId → Node → α) (depth : Nat) (trees : List Tree) :
    RoseTree.rowsAll depth (labelAll value depth trees) =
      (RoseTree.rowsAll depth (labelAll (fun _ id entry => (id, entry)) depth trees)).map
        fun visit => (visit.1, value visit.1 visit.2.1 visit.2.2) := by
  induction trees using forest_induction generalizing depth with
  | nil => rfl
  | cons id entry below rest belowIh restIh =>
      simp only [labelAll, label, RoseTree.rowsAll, RoseTree.rows, List.map_append, List.map_cons,
        List.cons_append, belowIh, restIh]

/-- The rows of a labelled tree are its visits, labelled. -/
theorem rows_label (value : Nat → NodeId → Node → α) (tree : Tree) :
    (tree.label value 0).rows 0 =
      tree.visits.map fun visit => (visit.1, value visit.1 visit.2.1 visit.2.2) := by
  simpa [visits, labelAll, RoseTree.rowsAll] using rowsAll_labelAll value 0 [tree]

theorem map_rowsAll_labelAll (depth : Nat) (trees : List Tree) :
    (RoseTree.rowsAll depth (labelAll (fun _ id entry => (id, entry)) depth trees)).map
      (fun visit => visit.2.1) = preorderAll trees := by
  induction trees using forest_induction generalizing depth with
  | nil => rfl
  | cons id entry below rest belowIh restIh =>
      simp only [labelAll, label, RoseTree.rowsAll, RoseTree.rows, List.map_append, List.map_cons,
        List.cons_append, belowIh, restIh, preorderAll, preorder]

/-- The visits are those of the preorder. -/
theorem map_visits (tree : Tree) : tree.visits.map (fun visit => visit.2.1) = tree.preorder := by
  simpa [visits, labelAll, RoseTree.rowsAll, preorderAll] using map_rowsAll_labelAll 0 [tree]

end Tree

end HamlTree
