import HamlTree.Proofs.SingleTree
import Mathlib.Data.Finset.Card
import Mathlib.Logic.Relation

/-!
# Unfolding -- an arena without cycles and its tree

`Arena.Unfoldable` asks of the child lists that they lead from containers to stored nodes and never
back to where they started. Nothing keeps a node from standing on several lists, so such an arena
is a graph, and its tree may be much larger than the arena. What bounds the depth is the number of
nodes below a node (`countBelow`), which drops along every list (`Unfoldable.ranked`).

`Unfolds` is unfolding without a bound: a node's tree has the trees of its children in it. It has at
most one result (`Unfolds.unique`), and for an unfoldable arena `Arena.tree` is that result
(`Unfoldable.unfolds_tree`), as `Arena.unfold` is for every other node
(`Unfoldable.unfold_eq_some`).
-/

set_option autoImplicit false

namespace HamlTree

namespace Arena

/-- `child` stands on the list of `parent`. -/
def Lists (arena : Arena) (parent child : NodeId) : Prop :=
  child ∈ arena.children parent

/-- No way down the child lists comes back to where it started. -/
def Acyclic (arena : Arena) : Prop :=
  ∀ id, ¬ Relation.TransGen arena.Lists id id

/-- The child lists lead from containers to stored nodes. -/
structure WellLinked (arena : Arena) : Prop where
  root_stored : root < arena.size
  stored : ∀ {parent child : Nat}, child ∈ arena.children parent → child < arena.size
  container : ∀ {parent child : Nat}, child ∈ arena.children parent →
    arena.isContainer parent = true

/-- The child lists lead from containers to stored nodes, and never back. -/
structure Unfoldable (arena : Arena) : Prop extends arena.WellLinked where
  acyclic : arena.Acyclic

/-- Steps along which a number drops never lead back. -/
theorem not_transGen_self_of_drops {steps : NodeId → NodeId → Prop} (rank : Nat → Nat)
    (drops : ∀ {before after : Nat}, steps before after → rank after < rank before) (id : Nat) :
    ¬ Relation.TransGen steps id id := by
  have below : ∀ {first last : Nat}, Relation.TransGen steps first last → rank last < rank first := by
    intro first last way
    induction way with
    | single step => exact drops step
    | tail _ step ih => exact Nat.lt_trans (drops step) ih
  exact fun way => Nat.lt_irrefl _ (below way)

/-- An arena whose lists are one tree is unfoldable. -/
theorem Rooted.unfoldable {arena : Arena} (rooted : arena.Rooted) : arena.Unfoldable where
  root_stored := rooted.size_pos
  stored := rooted.stored
  container := rooted.container
  acyclic := not_transGen_self_of_drops _ rooted.ranked.child_lt

/-! ## The bound on the depth -/

open Classical in
/-- How many stored nodes these steps lead to. -/
noncomputable def countBelow (arena : Arena) (steps : NodeId → NodeId → Prop) (id : NodeId) : Nat :=
  ((Finset.range arena.size).filter (Relation.TransGen steps id)).card

section CountBelow

variable {arena : Arena} {steps : NodeId → NodeId → Prop}

theorem countBelow_lt {parent child : Nat} (acyclic : ∀ id, ¬ Relation.TransGen steps id id)
    (step : steps parent child) (stored : child < arena.size) :
    arena.countBelow steps child < arena.countBelow steps parent := by
  classical
  -- what is below the child is below the parent, and the child itself only below the parent
  refine Finset.card_lt_card (Finset.ssubset_iff_of_subset ?_ |>.2 ⟨child, ?_, ?_⟩)
  · intro other
    simp only [Finset.mem_filter]
    exact fun ⟨within, way⟩ => ⟨within, .head step way⟩
  · simpa using ⟨stored, .single step⟩
  · simpa using fun _ => acyclic child

theorem countBelow_lt_size {id : Nat} (acyclic : ∀ id, ¬ Relation.TransGen steps id id)
    (within : id < arena.size) : arena.countBelow steps id < arena.size := by
  classical
  calc arena.countBelow steps id < (Finset.range arena.size).card := by
        refine Finset.card_lt_card (Finset.ssubset_iff_of_subset (Finset.filter_subset ..) |>.2
          ⟨id, by simpa using within, ?_⟩)
        simpa using fun _ => acyclic id
    _ = arena.size := Finset.card_range _

end CountBelow

theorem Unfoldable.ranked {arena : Arena} (unfoldable : arena.Unfoldable) :
    arena.RankedBy (arena.countBelow arena.Lists) where
  child_lt listed := countBelow_lt unfoldable.acyclic listed (unfoldable.stored listed)
  stored := unfoldable.stored
  lt_size := countBelow_lt_size unfoldable.acyclic

/-! ## Unfolding without a bound -/

/-- These nodes unfold into these trees. -/
inductive Unfolds (arena : Arena) : List NodeId → List Tree → Prop where
  | nil : Unfolds arena [] []
  | cons {id : NodeId} {rest : List NodeId} {node : Node} {below trees : List Tree}
      (found : arena.node? id = some node) (down : Unfolds arena (arena.children id) below)
      (along : Unfolds arena rest trees) : Unfolds arena (id :: rest) (.node id node below :: trees)

theorem Unfolds.unique {arena : Arena} {ids : List NodeId} {trees others : List Tree}
    (unfolds : arena.Unfolds ids trees) (again : arena.Unfolds ids others) : trees = others := by
  induction unfolds generalizing others with
  | nil => cases again; rfl
  | cons found down along downIh alongIh =>
      cases again with
      | cons foundAgain downAgain alongAgain =>
          cases found.symm.trans foundAgain
          rw [downIh downAgain, alongIh alongAgain]

namespace Unfoldable

variable {arena : Arena}

theorem unfolds_children (unfoldable : arena.Unfoldable) (id : Nat) :
    arena.Unfolds (arena.children id) ((arena.children id).filterMap arena.unfold) := by
  induction known : arena.countBelow arena.Lists id using Nat.strongRecOn generalizing id with
  | _ n ih =>
      have inner : ∀ ids : List Nat, (∀ child ∈ ids, child ∈ arena.children id) →
          arena.Unfolds ids (ids.filterMap arena.unfold) := by
        intro ids
        induction ids with
        | nil => intro _; exact .nil
        | cons child rest restIh =>
            intro members
            have listed := members child List.mem_cons_self
            obtain ⟨node, found⟩ := exists_node? (unfoldable.stored listed)
            have down := ih _ (known ▸ unfoldable.ranked.child_lt listed) child rfl
            have along := restIh fun other member => members other (List.mem_cons_of_mem _ member)
            have top : arena.unfold child =
                some (.node child node ((arena.children child).filterMap arena.unfold)) := by
              rw [unfold_eq unfoldable.ranked, found]
              rfl
            rw [List.filterMap_cons_some top]
            exact .cons found down along
      exact inner _ fun _ listed => listed

/-- A node's tree has the trees of its children in it. -/
theorem unfold_eq_some (unfoldable : arena.Unfoldable) {id : Nat} {node : Node} {below : List Tree}
    (found : arena.node? id = some node) (down : arena.Unfolds (arena.children id) below) :
    arena.unfold id = some (.node id node below) := by
  rw [unfold_eq unfoldable.ranked, found, (unfoldable.unfolds_children id).unique down]
  rfl

/-- The tree of an arena is what its root unfolds into. -/
theorem unfolds_tree (unfoldable : arena.Unfoldable) : arena.Unfolds [root] [arena.tree] := by
  obtain ⟨node, found⟩ := exists_node? unfoldable.root_stored
  have down := unfoldable.unfolds_children root
  rw [tree, unfoldable.unfold_eq_some found down]
  exact .cons found down .nil

/-- A leaf has no children. -/
theorem container_or_childless (unfoldable : arena.Unfoldable) {id : Nat} {node : Node}
    (found : arena.node? id = some node) :
    node.content.isContainer = true ∨ arena.children id = [] := by
  rw [or_iff_not_imp_right]
  intro some
  obtain ⟨child, listed⟩ := List.exists_mem_of_ne_nil _ some
  have container := unfoldable.container listed
  rwa [isContainer, content?_of_node? found, Option.any_some] at container

end Unfoldable

end Arena

/-- An accepted template is stored in an unfoldable arena. -/
theorem Template.unfoldable_of_parse {source : List Char} {filename : Option String}
    {arena : Arena} (accepted : parse source filename = .ok arena) : arena.Unfoldable :=
  (rooted_of_parse accepted).unfoldable

end HamlTree
