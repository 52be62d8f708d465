import HamlTree.Proofs.Alignment

/-!
# SingleTree -- an accepted template is one tree

Every node that reading stores goes below a container, and blank nodes only move from one list to
another, so the arena of an accepted template is `Rooted` (`rooted_of_parse`). What that comes to: the
child lists together name every stored node but the root once, and the walk meets every stored node
once and ends, however long it may go on.
-/

set_option autoImplicit false

namespace HamlTree

namespace Arena.Rooted

variable {arena : Arena}

/-- A number other than the root's stands once in all child lists together. -/
theorem count_children (rooted : arena.Rooted) {id : Nat} (positive : 0 < id)
    (stored : id < arena.size) : ((List.range arena.size).flatMap arena.children).count id = 1 := by
  obtain ⟨parent, listed⟩ := rooted.attached positive stored
  have older := rooted.parent_lt listed
  rw [rooted.count_flatMap_children listed]
  exact List.count_eq_one_of_mem List.nodup_range (List.mem_range.2 (by omega))

theorem length_walk (rooted : arena.Rooted) : arena.walk.length = arena.size := by
  rw [rooted.walk_perm_range.length_eq, List.length_range]

/-- A walk that may go on for longer than there are nodes has nothing left to visit. -/
theorem visit_eq_walk (rooted : arena.Rooted) {fuel : Nat} (enough : arena.size ≤ fuel) :
    arena.visit fuel [root] = arena.walk := by
  have same := walk_eq_below rooted.ranked rooted.size_pos
  have length := rooted.length_walk
  rw [same] at length ⊢
  exact visit_eq_below rooted.ranked rooted.size_pos fuel (by omega)

end Arena.Rooted

namespace Template

/-- What is stored when the last line has been read is one tree. -/
theorem rooted_of_parse {source : List Char} {filename : Option String} {arena : Arena}
    (accepted : parse source filename = .ok arena) : arena.Rooted := by
  obtain ⟨last, -, reached, -, rfl⟩ := parse_cases accepted
  exact (reached.aligned.grows (State.flushed_grows last)).rooted

/-- The arena of an accepted template is one tree below node 0, and the walk goes through all of it
without meeting a node twice. -/
theorem parse_single_tree {source : List Char} {filename : Option String} {arena : Arena}
    (accepted : parse source filename = .ok arena) :
    arena.content? Arena.root = some .root ∧
      ((List.range arena.size).flatMap arena.children).count Arena.root = 0 ∧
      (∀ id : Nat, 0 < id → id < arena.size →
        ((List.range arena.size).flatMap arena.children).count id = 1) ∧
      (∀ parent child : Nat, child ∈ arena.children parent →
        parent < child ∧ child < arena.size) ∧
      (∀ fuel : Nat, arena.size ≤ fuel → arena.visit fuel [Arena.root] = arena.walk) ∧
      (∀ id : Nat, id < arena.size → arena.walk.count id = 1) ∧
      arena.walk.length = arena.size := by
  have rooted := rooted_of_parse accepted
  refine ⟨rooted.content_root, rooted.count_root _, fun id => rooted.count_children,
    fun parent child listed => ⟨rooted.parent_lt listed, rooted.stored listed⟩,
    fun fuel => rooted.visit_eq_walk, fun id stored => ?_, rooted.length_walk⟩
  rw [rooted.walk_perm_range.count_eq]
  exact List.count_eq_one_of_mem List.nodup_range (List.mem_range.2 stored)

/-- A template in which a blank node moves below an element, and a filter ends in a blank line. -/
theorem parse_single_tree_blanks :
    ∃ arena, parse "%p\n\n  a\n  :plain\n    x\n\n%q".toList = .ok arena ∧ arena.size = 7 ∧
      arena.walk.length = 7 ∧ ∀ id : Nat, id < 7 → arena.walk.count id = 1 := by
  have size : (parse "%p\n\n  a\n  :plain\n    x\n\n%q".toList).toOption.map Arena.size = some 7 := by
    decide +kernel
  cases accepted : parse "%p\n\n  a\n  :plain\n    x\n\n%q".toList with
  | error fault => rw [accepted] at size; cases size
  | ok arena =>
      rw [accepted] at size
      have seven : arena.size = 7 := Option.some.inj size
      obtain ⟨-, -, -, -, -, once, length⟩ := parse_single_tree accepted
      exact ⟨arena, rfl, seven, length.trans seven, seven ▸ once⟩

end Template

end HamlTree
