import HamlTree.Proofs.Run
import HamlTree.Proofs.TreeGrowth
import Mathlib.Data.List.Chain

/-!
# Alignment -- containers and levels go together

Two things move with the depth of a template: the open levels of the tracker, and the stack of
containers with the current one on top. `State.Aligned` is what ties them together in every state:
as many containers as levels, each the last child of the one around it, the outermost the root, and
a comment's text is being read exactly if the current container is a comment for the author. The
tracker moves first and the containers follow, so the two are compared only when a line's changes of
depth have all been made (`Aligned.follow`). Every move keeps it (`Aligned.moves`).
-/

set_option autoImplicit false

namespace HamlTree.Template

open Indentation FilterBlock Text

namespace State

/-- The containers belong to the open levels. -/
structure Aligned (state : State) : Prop where
  rooted : state.arena.Rooted
  aged : state.arena.Aged
  depth : state.stack.length = state.indent.depth
  chain : (state.current :: state.stack).IsChain fun inner outer =>
    state.arena.lastChild? outer = some inner
  base : (state.current :: state.stack).getLast? = some Arena.root
  containers : ∀ id ∈ state.current :: state.stack, state.arena.isContainer id = true
  outer : ∀ id ∈ state.stack, state.arena.isAuthorComment id = false
  sound : state.indent.Sound
  comment : state.indent.inComment = state.inAuthorComment

namespace Aligned

theorem ofSource (source : List Char) (filename : Option String) :
    (State.ofSource source filename).Aligned where
  rooted := .empty
  aged := .empty
  depth := rfl
  chain := .singleton _
  base := rfl
  containers := by simp only [List.mem_singleton, forall_eq, State.ofSource]; decide
  outer := by simp [State.ofSource]
  sound := Tracker.sound_empty
  comment := rfl

variable {state entered next : State} {line : List Char}

theorem container (aligned : state.Aligned) : state.arena.isContainer state.current = true :=
  aligned.containers _ List.mem_cons_self

/-- Containers were made from the outermost to the innermost. -/
theorem descending (aligned : state.Aligned) :
    (state.current :: state.stack).Pairwise fun inner outer : Nat => outer < inner := by
  refine (aligned.chain.imp fun inner outer last => ?_).pairwise
  exact aligned.rooted.parent_lt (List.mem_of_getLast? last)

theorem stack_lt (aligned : state.Aligned) {id : Nat} (member : id ∈ state.stack) :
    id < state.current :=
  (List.pairwise_cons.1 aligned.descending).1 id member

/-- Changes to the arena that leave nodes and the lists of outer containers alone keep the chain of
outer containers. -/
theorem chain_congr (aligned : state.Aligned) {arena : Arena}
    (same : ∀ id ∈ state.stack, arena.children id = state.arena.children id) :
    (state.current :: state.stack).IsChain fun inner outer =>
      arena.lastChild? outer = some inner := by
  refine aligned.chain.imp_of_mem_tail_imp fun inner outer _ member last => ?_
  rw [Arena.lastChild?, same outer member]
  exact last

theorem lt_size (aligned : state.Aligned) {id : Nat} (member : id ∈ state.current :: state.stack) :
    id < state.arena.size :=
  Arena.lt_size_of_isContainer (aligned.containers id member)

theorem inAuthorComment_addNode (aligned : state.Aligned) (node : Node) :
    (state.addNode node).inAuthorComment = state.inAuthorComment :=
  Arena.isAuthorComment_congr
    (Arena.node?_append_of_lt (aligned.lt_size (List.mem_cons_self ..)) state.current node)

theorem addNode (aligned : state.Aligned) (node : Node) : (state.addNode node).Aligned where
  rooted := aligned.rooted.append aligned.container node
  aged := aligned.aged.append aligned.rooted aligned.container node
  depth := aligned.depth
  chain := by
    refine aligned.chain_congr fun id member => ?_
    have older := aligned.stack_lt member
    exact (Arena.children_append aligned.container node id).trans (if_neg (by omega))
  base := aligned.base
  containers id member := by
    have old := Arena.node?_append_of_lt (aligned.lt_size member) state.current node
    exact (Arena.isContainer_congr old).trans (aligned.containers id member)
  outer id member := by
    have stored := aligned.lt_size (List.mem_cons_of_mem _ member)
    have old := Arena.node?_append_of_lt stored state.current node
    exact (Arena.isAuthorComment_congr old).trans (aligned.outer id member)
  sound := aligned.sound
  comment := aligned.comment.trans (aligned.inAuthorComment_addNode node).symm

/-- The node that a deeper line goes below is a container. -/
theorem isContainer_youngest (aligned : state.Aligned) {target : Nat}
    (youngest : state.arena.youngest? state.current = some target)
    (legal : ∀ content, state.arena.content? target = some content →
      nestingFault? content = none) : state.arena.isContainer target = true := by
  have listed := Arena.mem_children_of_youngest? youngest
  obtain ⟨content, found⟩ := Arena.exists_content? (aligned.rooted.stored listed)
  simp [Arena.isContainer, found, isContainer_of_nestingFault? (legal content found)]

/-- A deeper line makes the youngest child the innermost container. -/
theorem enter (aligned : state.Aligned) (higher : state.indent.current < levelOf line)
    (outside : state.indent.inComment = false)
    (enters : { state with indent := state.indent.deeper (levelOf line) }.enter = .ok entered) :
    entered.Aligned := by
  obtain ⟨target, youngest, legal, rfl, -⟩ := enter_cases enters aligned.container
  have older := aligned.rooted.parent_lt (Arena.mem_children_of_youngest? youngest)
  have container := aligned.isContainer_youngest youngest legal
  have noComment : state.arena.isAuthorComment state.current = false :=
    aligned.comment.symm.trans outside
  have deeper := aligned.sound.deeper higher outside
  have sameNode : ∀ id, (state.arena.relocate state.current target).node? id =
      state.arena.node? id := fun id => Arena.node?_relocate ..
  refine ⟨aligned.rooted.relocate youngest aligned.aged container,
    aligned.aged.relocate aligned.rooted youngest container, ?_, ?_, ?_, ?_, ?_, ?_, ?_⟩
  · dsimp only
    split <;> simp [Tracker.depth, Tracker.deeper, Tracker.enterComment, aligned.depth]
  · refine .cons_cons (aligned.rooted.lastChild?_relocate youngest container) ?_
    refine aligned.chain_congr fun id member => ?_
    have outerOlder := aligned.stack_lt member
    rw [aligned.rooted.children_relocate youngest container, if_neg (by omega),
      if_neg (by omega)]
  · rw [List.getLast?_cons_cons]
    exact aligned.base
  · intro id member
    rw [Arena.isContainer_congr (sameNode id)]
    rcases List.mem_cons.1 member with rfl | outer
    · exact container
    · exact aligned.containers id outer
  · intro id member
    rw [Arena.isAuthorComment_congr (sameNode id)]
    rcases List.mem_cons.1 member with rfl | outer
    · exact noComment
    · exact aligned.outer id outer
  · dsimp only
    split
    · exact deeper.enterComment
    · exact deeper
  · have same : state.arena.isAuthorComment target =
        (state.arena.relocate state.current target).isAuthorComment target :=
      (Arena.isAuthorComment_congr (sameNode target)).symm
    dsimp only [State.inAuthorComment]
    rw [← same]
    split
    · rename_i inside
      rw [inside]
      rfl
    · rename_i notComment
      rw [Bool.eq_false_iff.2 notComment]
      exact outside

/-- A shallower line leaves as many containers as levels close. -/
theorem leave (aligned : state.Aligned) {around : List Nat} {closed : Nat}
    (lower : levelOf line < state.indent.current)
    (closes : closeAbove (levelOf line) state.indent.current state.indent.enclosing =
      (levelOf line, around, closed)) :
    (leaveMany closed { state with indent := ⟨levelOf line, around, none⟩ }).Aligned := by
  obtain ⟨fits, dropped, -⟩ := closeAbove_spec closes
  have fits : closed ≤ state.stack.length := aligned.depth ▸ fits
  -- the outermost level is 0, so a shallower line closes something
  have nested : state.indent.enclosing ≠ [] := by
    intro none
    have base := aligned.sound.base
    rw [none] at base
    have : state.indent.current = 0 := by simpa using base
    omega
  have positive := closeAbove_pos closes lower nested
  obtain ⟨current, stack, left, same⟩ := leaveMany_eq fits ⟨levelOf line, around, none⟩
  have subset : ∀ id ∈ current :: stack, id ∈ state.stack := by
    intro id member
    obtain ⟨rest, rfl⟩ : ∃ rest, closed = rest + 1 := ⟨closed - 1, by omega⟩
    rw [List.drop_succ_cons] at left
    exact (List.drop_sublist ..).subset (left ▸ member)
  rw [same]
  refine ⟨aligned.rooted, aligned.aged, ?_, ?_, ?_, ?_, ?_, aligned.sound.closed closes, ?_⟩
  · have lengths := congrArg List.length left
    have levels := congrArg List.length dropped
    have depth := aligned.depth
    simp only [List.length_drop, List.length_cons, Tracker.depth] at lengths levels depth ⊢
    omega
  · rw [← left]
    exact aligned.chain.drop closed
  · rw [← left, List.getLast?_drop, if_neg (by simp only [List.length_cons]; omega)]
    exact aligned.base
  · exact fun id member => aligned.containers id (List.mem_cons_of_mem _ (subset id member))
  · exact fun id member => aligned.outer id (subset id (List.mem_cons_of_mem _ member))
  · exact (aligned.outer current (subset current List.mem_cons_self)).symm

theorem follow (aligned : state.Aligned) (followed : Followed state line entered) :
    entered.Aligned := by
  cases followed with
  | stay why => exact aligned
  | enter solid higher outside enters => exact aligned.enter higher outside enters
  | leave solid lower outside closes => exact aligned.leave lower closes

theorem growth (aligned : state.Aligned) (growth : Growth state next) : next.Aligned := by
  cases growth with
  | note feed filter lineno =>
      exact ⟨aligned.rooted, aligned.aged, aligned.depth, aligned.chain, aligned.base,
        aligned.containers, aligned.outer, aligned.sound, aligned.comment⟩
  | add node suits => exact aligned.addNode node

theorem moves (aligned : state.Aligned) (moves : Moves state next) : next.Aligned := by
  induction moves with
  | refl => exact aligned
  | tail _ move ih =>
      cases move with
      | grow growth => exact ih.growth growth
      | follow followed => exact ih.follow followed

theorem grows (aligned : state.Aligned) (grows : Grows state next) : next.Aligned :=
  aligned.moves grows.moves

/-- On level 0 the container is the root. -/
theorem current_eq_root (aligned : state.Aligned) (flush : state.indent.current = 0) :
    state.current = Arena.root := by
  have steep := aligned.sound.steep
  have depth := aligned.depth
  have base := aligned.base
  cases levels : state.indent.enclosing with
  | nil =>
      rw [Tracker.depth, levels] at depth
      rw [List.eq_nil_of_length_eq_zero depth] at base
      simpa using base
  | cons outer around =>
      rw [levels] at steep
      have := (List.pairwise_cons.1 steep).1 outer List.mem_cons_self
      omega

/-- Closing all levels leaves all containers but the root. -/
theorem leaveAll (aligned : state.Aligned) (indent : Tracker) :
    (leaveMany state.indent.depth { state with indent }).stack = [] ∧
      (leaveMany state.indent.depth { state with indent }).current = Arena.root := by
  have full : state.indent.depth ≤ state.stack.length := Nat.le_of_eq aligned.depth.symm
  obtain ⟨current, stack, dropped, same⟩ := leaveMany_eq full indent
  have flat : stack = [] := by
    have lengths := congrArg List.length dropped
    simp only [List.length_drop, List.length_cons, ← aligned.depth] at lengths
    exact List.eq_nil_of_length_eq_zero (by omega)
  have last : (current :: stack).getLast? = some Arena.root := by
    rw [← dropped, List.getLast?_drop, if_neg (by simp only [List.length_cons]; omega)]
    exact aligned.base
  rw [same]
  subst flat
  exact ⟨rfl, by simpa using last⟩

/-- Outside comments a line with text is followed to its own level. -/
theorem current_eq (aligned : state.Aligned) (followed : Followed state line entered)
    (solid : (split line).2 ≠ []) (outside : entered.inAuthorComment = false) :
    entered.indent.current = levelOf line := by
  cases followed with
  | stay why =>
      rcases why with gone | same | ⟨comment, found, -⟩
      · exact absurd gone solid
      · exact same.symm
      · have inside := aligned.comment
        rw [outside, Tracker.inComment, found] at inside
        cases inside
  | enter solid higher notComment enters =>
      obtain ⟨target, -, -, rfl, -⟩ := enter_cases enters aligned.container
      dsimp only
      split <;> rfl
  | leave solid lower notComment closes =>
      rw [leaveMany_frame]

end Aligned

end State

/-- In every state between two lines the containers belong to the open levels. -/
theorem Reached.aligned {source : List Char} {filename : Option String} {state : State}
    (reached : Reached source filename state) : state.Aligned := by
  induction reached with
  | start => exact .ofSource source filename
  | step reached more steps ih => exact ih.moves (State.step_moves steps more)

end HamlTree.Template
