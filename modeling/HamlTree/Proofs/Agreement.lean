import HamlTree.Proofs.Stepping

/-!
# Agreement -- the stack of containers, the tracker and the filter agree

Three things are kept between two lines, each moved by code of its own: the stack of containers,
the tracker of open levels, and the filter being read. `State.Agrees` is what a reader of the state
may rely on. That the stack never runs out is a statement about changes of depth on their way:
`Matched events state` says that no `leave` among them meets an empty stack.

The main statement is that all states between two lines agree, the changes of depth that a line asks
for are matched whether or not the line is then accepted, and the reading of a whole template ends
where it began, at the root.
-/

set_option autoImplicit false

namespace HamlTree.Template

open Indentation FilterBlock Text

namespace State

/-- What ties containers, levels and filter together. -/
structure Agrees (source : List Char) (state : State) : Prop where
  depth : state.stack.length = state.indent.depth
  outermost : state.stack ≠ [] → state.stack.getLast? = some Arena.root
  lastChild : (state.current :: state.stack).IsChain fun inner outer =>
    state.arena.lastChild? outer = some inner
  bottom : state.stack = [] → state.current = Arena.root
  container : state.arena.isContainer state.current = true
  comment : state.indent.inComment = true ↔ state.inAuthorComment = true
  filter : ∀ draft, state.filter.draft = some draft →
    state.inAuthorComment = false ∧ Opens source draft state.indent.current

theorem Aligned.agrees {source : List Char} {state : State} (aligned : state.Aligned)
    (placed : state.Placed source) : state.Agrees source where
  depth := aligned.depth
  outermost nested := by
    obtain ⟨parent, rest, around⟩ := List.exists_cons_of_ne_nil nested
    have base := aligned.base
    rw [around, List.getLast?_cons_cons] at base
    rw [around, base]
  lastChild := aligned.chain
  bottom flat := by
    have base := aligned.base
    rw [flat] at base
    simpa using base
  container := aligned.container
  comment := by rw [aligned.comment]
  filter := placed.filter

/-! ## No container is left that was not entered -/

/-- Following these changes of depth, no `leave` meets an empty stack. -/
def Matched : List Event → State → Prop
  | [], _ => True
  | event :: rest, state =>
    (∀ level, event = .leave level → state.stack ≠ []) ∧
      ∀ next, state.apply event = .ok next → Matched rest next

theorem matched_leaves {count level : Nat} {state : State} (fits : count ≤ state.stack.length) :
    Matched (List.replicate count (.leave level)) state := by
  induction count generalizing state with
  | zero => exact trivial
  | succ count ih =>
      obtain ⟨parent, rest, around⟩ : ∃ parent rest, state.stack = parent :: rest :=
        List.exists_cons_of_ne_nil (by intro flat; simp [flat] at fits)
      refine ⟨fun _ _ => by simp [around], fun next applied => ?_⟩
      have left : state.leave = next := by simpa [apply] using applied
      apply ih
      rw [← left]
      simp only [leave, around, List.length_cons] at fits ⊢
      omega

/-- The changes of depth that the next line asks for, if it comes to be read and its indentation is
legal, never leave an empty stack. -/
def NextMatched (state : State) : Prop :=
  ∀ line ready, state.opened = some (line, ready) → ready.filter.isOpen = false →
    ∀ indent processed,
      (ready.started line).indent.process (line.filter (· != '\n')) = (indent, .ok processed) →
        Matched processed.events { ready.started line with indent }

theorem Aligned.matched {state : State} (aligned : state.Aligned) {line : List Char}
    {indent : Tracker} {processed : Processed}
    (processes : state.indent.process line = (indent, .ok processed)) :
    Matched processed.events { state with indent } := by
  obtain ⟨-, -, response⟩ := Tracker.process_response processes
  generalize processed.events = events at response
  cases response with
  | stay why => exact trivial
  | enter solid higher outside =>
      refine ⟨fun level leaves => ?_, fun _ _ => trivial⟩
      cases leaves
  | leave solid lower outside closes =>
      apply matched_leaves
      have fits := (closeAbove_spec closes).1
      exact aligned.depth ▸ fits

theorem Aligned.nextMatched {state : State} (aligned : state.Aligned) : state.NextMatched := by
  intro line ready taken _ indent processed processes
  exact (aligned.grows ((opened_grows taken).trans (grows_started ready line))).matched processes

end State

/-- Containers, levels and filter agree between any two lines of any template. No line and not the
end of the template leaves more containers than were entered. When all lines have been read, the
end of the template leads back to the root. -/
theorem reading_agrees (source : List Char) (filename : Option String) :
    (∀ state, Reached source filename state → state.Agrees source ∧ state.NextMatched) ∧
      ∀ last, (State.ofSource source filename).run = .ok last →
        Reached source filename last ∧ last.feed.hasNext = false ∧
          State.Matched last.flushed.indent.finish.2
            { last.flushed with indent := last.flushed.indent.finish.1 } ∧
          ∃ final, last.finish = .ok final ∧ final.stack = [] ∧ final.current = Arena.root := by
  refine ⟨fun state reached => ?_, fun last runs => ?_⟩
  · exact ⟨reached.aligned.agrees reached.placed, reached.aligned.nextMatched⟩
  · obtain ⟨reached, exhausted⟩ := Reached.of_run runs
    have aligned := reached.aligned.grows (State.flushed_grows last)
    refine ⟨reached, exhausted, ?_, _, State.finish_eq last, aligned.leaveAll _⟩
    rw [Tracker.finish_events]
    exact State.matched_leaves (Nat.le_of_eq aligned.depth.symm)

/-- After the second line of this template an element is entered and a filter is open; its end leads
back to the root. -/
theorem reading_agrees_in_filter :
    (∃ state, Reached "%p\n  :plain\n    x".toList none state ∧ state.stack = [Arena.root] ∧
        state.filter.isOpen = true ∧ state.Agrees "%p\n  :plain\n    x".toList) ∧
      ∃ last, (State.ofSource "%p\n  :plain\n    x".toList none).run = .ok last ∧
        last.stack = [Arena.root] ∧
        ∃ final, last.finish = .ok final ∧ final.stack = [] ∧ final.current = Arena.root := by
  obtain ⟨between, ends⟩ := reading_agrees "%p\n  :plain\n    x".toList none
  refine ⟨?_, _, rfl, rfl, (ends _ rfl).2.2.2⟩
  have reached : Reached "%p\n  :plain\n    x".toList none _ :=
    .step (.step .start rfl rfl) rfl rfl
  exact ⟨_, reached, rfl, rfl, (between _ reached).1⟩

end HamlTree.Template
