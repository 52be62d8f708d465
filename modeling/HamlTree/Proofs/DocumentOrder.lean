import HamlTree.Proofs.CreationOrder
import HamlTree.Proofs.Dating
import HamlTree.Proofs.PlainReading
import HamlTree.Proofs.SingleTree

/-!
# DocumentOrder -- when the walk of a template is in the order of its lines

Nodes are made in the order of their lines, so the walk is in that order exactly if every child list
is in order of creation. Only one thing can spoil that: a deeper line that makes blank nodes move in
front of children that a node has already (`State.Reopens`). From then on the tree stays disordered
(`Reached.disordered`). Nothing of the kind happens where blanks, tabs and line feeds are the only
white space (`Fresh.not_reopens`).

It does happen otherwise. A line of other white space with a pipe after it has text but yields no
node, so the container that it goes back to still ends in the node that was open before; the next
deeper line opens that node again, and takes blank lines along.
-/

set_option autoImplicit false

namespace HamlTree.Template

open Indentation FilterBlock Text

namespace State

/-- The next line opens a level below a node that has children, and blank nodes stand after that
node. -/
def Reopens (state : State) : Prop :=
  ∃ line ready target, state.opened = some (line, ready) ∧ ready.filter.isOpen = false ∧
    (split (line.filter (· != '\n'))).2 ≠ [] ∧
    ready.indent.current < levelOf (line.filter (· != '\n')) ∧ ready.indent.inComment = false ∧
    ready.arena.youngest? ready.current = some target ∧ ready.arena.children target ≠ [] ∧
    ready.arena.trailingBlanks ready.current ≠ []

/-- The tree is ordered, and stays so when nodes are added to the current container or one around
it. -/
def Ordered (state : State) : Prop :=
  state.arena.Ordered (state.current :: state.stack)

variable {source line physical : List Char} {state next ready entered after : State} {feed : Feed}

/-! ## Order is kept unless a level is opened again -/

theorem Aligned.le_current (aligned : state.Aligned) :
    ∀ outer ∈ state.current :: state.stack, outer ≤ state.current := by
  intro outer member
  rcases List.mem_cons.1 member with rfl | outside
  · exact Nat.le_refl _
  · exact Nat.le_of_lt (aligned.stack_lt outside)

namespace Ordered

theorem growth (ordered : state.Ordered) (aligned : state.Aligned) (growth : Growth state next) :
    next.Ordered := by
  cases growth with
  | note feed filter lineno => exact ordered
  | add node suits =>
      exact Arena.Ordered.append ordered aligned.rooted aligned.container aligned.le_current
        List.mem_cons_self node

theorem grows (ordered : state.Ordered) (aligned : state.Aligned) (grows : Grows state next) :
    next.Ordered := by
  induction grows with
  | refl => exact ordered
  | tail earlier growth ih => exact ih.growth (aligned.grows earlier) growth

/-- Following indentation keeps order, unless blank nodes move in front of others. -/
theorem follow (ordered : state.Ordered) (aligned : state.Aligned)
    (followed : Followed state line entered)
    (neat : ∀ target, (split line).2 ≠ [] → state.indent.current < levelOf line →
      state.indent.inComment = false → state.arena.youngest? state.current = some target →
      state.arena.trailingBlanks state.current = [] ∨ state.arena.children target = []) :
    entered.Ordered := by
  cases followed with
  | stay why => exact ordered
  | enter solid higher outside enters =>
      obtain ⟨target, youngest, legal, rfl, -⟩ := enter_cases enters aligned.container
      exact Arena.Ordered.relocate ordered aligned.rooted List.mem_cons_self youngest
        (aligned.isContainer_youngest youngest legal) aligned.le_current
        (neat target solid higher outside youngest)
  | @leave around closed solid lower outside closes =>
      have fits : closed ≤ state.stack.length := aligned.depth ▸ (closeAbove_spec closes).1
      obtain ⟨current, stack, dropped, same⟩ := leaveMany_eq fits ⟨levelOf line, around, none⟩
      rw [same]
      refine ⟨ordered.sorted, ordered.planar, fun member => ordered.clear ?_⟩
      exact (List.drop_sublist closed _).subset (dropped ▸ member)

theorem step (ordered : state.Ordered) (aligned : state.Aligned)
    (stepped : state.Stepped source next) (once : ¬ state.Reopens) : next.Ordered := by
  cases stepped with
  | collect opened found outside taken single grown => exact ordered
  | @read line physical feed ready entered after reads told =>
      have started := ordered.grows aligned reads.grows
      have follows := started.follow (reads.started_aligned aligned) reads.followed ?_
      · exact follows.grows (reads.aligned aligned) (told.grows.trans (grows_addBlanks ..))
      · intro target solid higher outside youngest
        by_contra both
        obtain ⟨moved, nested⟩ := not_or.1 both
        exact once ⟨line, ready, target, reads.opened, reads.ready_closed, solid, higher, outside,
          youngest, nested, moved⟩

end Ordered

/-! ## Disorder stays -/

theorem disordered_grows (disordered : state.arena.Disordered) (aligned : state.Aligned)
    (grows : Grows state next) : next.arena.Disordered := by
  induction grows with
  | refl => exact disordered
  | tail earlier growth ih =>
      have before := aligned.grows earlier
      cases growth with
      | note feed filter lineno => exact ih
      | add node suits => exact ih.append before.rooted before.container node

theorem disordered_moves (disordered : state.arena.Disordered) (aligned : state.Aligned)
    (moves : Moves state next) : next.arena.Disordered := by
  induction moves with
  | refl => exact disordered
  | tail earlier move ih =>
      have before := aligned.moves earlier
      cases move with
      | grow growth => exact disordered_grows ih before (.single growth)
      | follow followed =>
          cases followed with
          | stay why => exact ih
          | enter solid higher outside enters =>
              obtain ⟨target, youngest, legal, rfl, -⟩ := enter_cases enters before.container
              exact ih.relocate before.rooted youngest
                (before.isContainer_youngest youngest legal)
          | leave solid lower outside closes =>
              rw [leaveMany_frame]
              exact ih

/-- A step that opens a level again puts an ordered tree in disorder. -/
theorem Reopens.disordered (reopens : state.Reopens) (ordered : state.Ordered)
    (aligned : state.Aligned) (stepped : state.Stepped source next) : next.arena.Disordered := by
  obtain ⟨line, ready, target, opened, closed, solid, higher, outside, youngest, nested, moved⟩ :=
    reopens
  obtain ⟨physical, feed, entered, after, reads, told, rfl⟩ := stepped.reads opened closed
  have begun := reads.started_aligned aligned
  have started := ordered.grows aligned reads.grows
  have disordered : entered.arena.Disordered := by
    cases reads.followed with
    | stay why =>
        rcases why with gone | same | ⟨comment, found, -⟩
        · exact absurd gone solid
        · exact absurd same (Nat.ne_of_gt higher)
        · have found : ready.indent.commentLevel = some comment := found
          simp [Tracker.inComment, found] at outside
    | enter solid higher outside enters =>
        obtain ⟨target', alsoYoungest, legal, rfl, -⟩ := enter_cases enters begun.container
        cases youngest.symm.trans alsoYoungest
        exact .of_relocate begun.rooted youngest (begun.isContainer_youngest youngest legal)
          started.planar begun.aged moved nested
    | leave solid lower outside closes => exact absurd lower (Nat.lt_asymm higher)
  exact disordered_grows disordered (reads.aligned aligned)
    (told.grows.trans (grows_addBlanks ..))

/-- Without children at the youngest node no level is opened again. -/
theorem Fresh.not_reopens (fresh : state.Fresh) (aligned : state.Aligned)
    (stepped : state.Stepped source next) : ¬ state.Reopens := by
  rintro ⟨line, ready, target, opened, closed, -, -, outside, youngest, nested, -⟩
  obtain ⟨physical, feed, entered, after, reads, -, -⟩ := stepped.reads opened closed
  have readyFresh := fresh.readied aligned reads.readied
  have outside := (aligned.grows reads.readied.grows).comment.symm.trans outside
  exact nested (readyFresh reads.readied.frame.2 outside target youngest).1

/-! ## Whole templates -/

/-- A step that opens a level again takes a line. -/
theorem Reopens.hasNext (reopens : state.Reopens) : state.feed.hasNext = true := by
  obtain ⟨line, ready, -, opened, -⟩ := reopens
  obtain ⟨count, positive, fits, -⟩ := Feed.take_skip (opened_feed opened)
  exact Feed.hasNext_eq_true.2 (List.ne_nil_of_length_pos (by omega))

end State

variable {source : List Char} {filename : Option String} {arena : Arena}

theorem Reached.ordered_or_disordered {state : State} (reached : Reached source filename state) :
    state.Ordered ∨ state.arena.Disordered := by
  induction reached with
  | start => exact .inl (Arena.Ordered.empty _)
  | @step state next reached more steps ih =>
      have stepped := State.step_stepped reached.placed more steps
      rcases ih with ordered | disordered
      · by_cases reopens : state.Reopens
        · exact .inr (reopens.disordered ordered reached.aligned stepped)
        · exact .inl (ordered.step reached.aligned stepped reopens)
      · exact .inr (State.disordered_moves disordered reached.aligned
          (State.step_moves steps more))

theorem Reached.ordered {state : State} (reached : Reached source filename state)
    (once : ∀ state, Reached source filename state → ¬ state.Reopens) : state.Ordered := by
  induction reached with
  | start => exact Arena.Ordered.empty _
  | @step state next reached more steps ih =>
      exact ih.step reached.aligned (State.step_stepped reached.placed more steps)
        (once state reached)

/-- Once a level was opened again, the reading ends in disorder. -/
theorem Reached.disordered {state last : State} (reached : Reached source filename state)
    (reopens : state.Reopens) (runs : (State.ofSource source filename).run = .ok last) :
    last.arena.Disordered := by
  have more := reopens.hasNext
  obtain ⟨next, steps, rest⟩ := reached.goes_on more runs
  have spoilt : next.arena.Disordered := by
    rcases reached.ordered_or_disordered with ordered | disordered
    · exact reopens.disordered ordered reached.aligned
        (State.step_stepped reached.placed more steps)
    · exact State.disordered_moves disordered reached.aligned (State.step_moves steps more)
  exact (@Reached.runAux_keeps source filename (·.arena.Disordered) _ _ _
    (reached.step more steps) spoilt (fun reached more steps disordered =>
      State.disordered_moves disordered reached.aligned (State.step_moves steps more)) rest).2.1

/-- The nodes of an accepted template are met in order of creation exactly if no line opens a level
again. -/
theorem walk_eq_range_iff (accepted : parse source filename = .ok arena) :
    arena.walk = List.range arena.size ↔
      ∀ state, Reached source filename state → ¬ state.Reopens := by
  have rooted := rooted_of_parse accepted
  obtain ⟨last, runs, reached, -, rfl⟩ := parse_cases accepted
  have grows := State.flushed_grows last
  constructor
  · intro inOrder state reachedState reopens
    have disordered := State.disordered_grows (reachedState.disordered reopens runs)
      reached.aligned grows
    refine disordered.not_sorted (rooted.pairwise_children_of_walk ?_)
    rw [inOrder]
    exact List.pairwise_lt_range
  · intro once
    have ordered := (reached.ordered once).grows reached.aligned grows
    exact rooted.walk_eq_range ordered.planar ordered.sorted

/-- In order of creation is in order of lines. -/
theorem walk_linenos_iff (accepted : parse source filename = .ok arena) :
    (arena.walk.map arena.lineno).Pairwise (· < ·) ↔ arena.walk = List.range arena.size := by
  have rooted := rooted_of_parse accepted
  obtain ⟨bound, dated⟩ := datedTo_of_parse accepted
  have stored : ∀ id ∈ arena.walk, id < arena.size := fun id member =>
    List.mem_range.1 (rooted.walk_perm_range.mem_iff.1 member)
  have sameOrder : (arena.walk.map arena.lineno).Pairwise (· < ·) ↔
      arena.walk.Pairwise (· < ·) := by
    rw [List.pairwise_map]
    exact List.Pairwise.iff_of_mem fun first second =>
      dated.lt_iff (stored _ first) (stored _ second)
  rw [sameOrder]
  refine ⟨rooted.walk_eq_range_of_pairwise, fun inOrder => ?_⟩
  rw [inOrder]
  exact List.pairwise_lt_range

/-- The walk of an accepted template starts at the root, on line 0. It goes on to ever later lines,
and through the nodes in order of creation, exactly if no line opens a level again under which blank
nodes move in front of older ones. No line does where blanks, tabs and line feeds are the only white
space. -/
theorem walk_increasing_iff (accepted : parse source filename = .ok arena) :
    arena.walk.head? = some Arena.root ∧ arena.lineno Arena.root = 0 ∧
      ((arena.walk.map arena.lineno).Pairwise (· < ·) ↔
        ∀ state, Reached source filename state → ¬ state.Reopens) ∧
      (arena.walk = List.range arena.size ↔
        ∀ state, Reached source filename state → ¬ state.Reopens) ∧
      (Plain source → (arena.walk.map arena.lineno).Pairwise (· < ·) ∧
        arena.walk = List.range arena.size) := by
  have rooted := rooted_of_parse accepted
  obtain ⟨bound, dated⟩ := datedTo_of_parse accepted
  obtain ⟨last, runs, -⟩ := parse_cases accepted
  have creation := walk_eq_range_iff accepted
  have linenos := walk_linenos_iff accepted
  refine ⟨?_, dated.lineno_root, linenos.trans creation, creation, fun plain => ?_⟩
  · rw [Arena.walk_eq_below rooted.ranked rooted.size_pos,
      Arena.below_eq rooted.ranked rooted.size_pos, List.head?_cons]
  · have inOrder : arena.walk = List.range arena.size := by
      refine creation.2 fun state reached reopens => ?_
      obtain ⟨next, steps, -⟩ := reached.goes_on reopens.hasNext runs
      exact (reached.fresh plain).not_reopens reached.aligned
        (State.step_stepped reached.placed reopens.hasNext steps) reopens
    exact ⟨linenos.2 inOrder, inOrder⟩

/-- A blank line that moves below an element on a plain template; and a template that opens a level
again. -/
theorem walk_increasing_iff_plain_and_reopened :
    (∃ arena, parse "%p\n\n  a\n\nb".toList = .ok arena ∧
        (arena.walk.map arena.lineno).Pairwise (· < ·) ∧ arena.walk = List.range arena.size) ∧
      ∃ state, Reached "%div\n  a\n\u00a0 |\n\n  b".toList none state ∧ state.Reopens := by
  constructor
  · have accepted : (parse "%p\n\n  a\n\nb".toList).isOk = true := by decide +kernel
    cases parsed : parse "%p\n\n  a\n\nb".toList with
    | error fault => rw [parsed] at accepted; cases accepted
    | ok arena =>
        obtain ⟨-, -, -, -, inOrder⟩ := walk_increasing_iff parsed
        exact ⟨arena, rfl, inOrder (by decide +kernel)⟩
  · have order : (parse "%div\n  a\n\u00a0 |\n\n  b".toList).toOption.map
        (fun arena => decide (arena.walk = List.range arena.size)) = some false := by
      decide +kernel
    cases parsed : parse "%div\n  a\n\u00a0 |\n\n  b".toList with
    | error fault => rw [parsed] at order; cases order
    | ok arena =>
        rw [parsed] at order
        have disordered : ¬ arena.walk = List.range arena.size :=
          of_decide_eq_false (Option.some.inj order)
        obtain ⟨-, -, -, creation, -⟩ := walk_increasing_iff parsed
        by_contra none
        refine disordered (creation.2 fun state reached reopens => none ⟨state, reached, reopens⟩)

/-- The blank line 4 is met before the text on line 2. -/
theorem walk_not_increasing :
    ∃ arena, parse "%div\n  a\n\u00a0 |\n\n  b".toList = .ok arena ∧
      arena.walk.map arena.lineno = [0, 1, 4, 2, 5] ∧
      ¬ (arena.walk.map arena.lineno).Pairwise (· < ·) ∧
      ¬ arena.walk = List.range arena.size := by
  have walked : (parse "%div\n  a\n\u00a0 |\n\n  b".toList).toOption.map
      (fun arena => (arena.walk, arena.walk.map arena.lineno)) =
        some ([0, 1, 3, 2, 4], [0, 1, 4, 2, 5]) := by
    decide +kernel
  cases parsed : parse "%div\n  a\n\u00a0 |\n\n  b".toList with
  | error fault => rw [parsed] at walked; cases walked
  | ok arena =>
      rw [parsed] at walked
      obtain ⟨walk, linenos⟩ := Prod.mk.inj (Option.some.inj walked)
      refine ⟨arena, rfl, linenos, by rw [linenos]; decide, fun inOrder => ?_⟩
      have sorted : arena.walk.Pairwise (· < ·) := inOrder ▸ List.pairwise_lt_range
      rw [walk] at sorted
      exact absurd sorted (by decide)

end HamlTree.Template
