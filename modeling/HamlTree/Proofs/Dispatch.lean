import HamlTree.Proofs.Resumption

/-!
# Dispatch -- lines whose text decides what is read

A line of a template is dispatched if it is neither a line of a filter's body nor a comment's text,
nor taken along by the line before: its first characters then decide what it is. `Dispatches` says so
of a physical line, which is the first of its logical line.

What a line does depends on the state in which it is dispatched, and that on the lines before.
Sources that share these are read up to the same state (`Reached.counterpart`).
-/

set_option autoImplicit false

namespace HamlTree.Template

open Indentation FilterBlock Text

/-- The next step takes this line, and `entered` is the state that reads its text, outside filters and
comments for the author. -/
structure State.Dispatches (state : State) (line : List Char) (ready entered : State) : Prop where
  opened : state.opened = some (line, ready)
  closed : ready.filter.isOpen = false
  follows : (ready.started line).follow (line.filter (· != '\n')) = .ok entered
  outside : entered.inAuthorComment = false

/-- The reading of `source` comes to dispatch physical line `lineno`. `line` is its logical line,
without line feeds. -/
def Dispatches (source : List Char) (filename : Option String) (lineno : Nat) (line : List Char) :
    Prop :=
  ∃ state taken ready entered, Reached source filename state ∧ lineno = state.feed.lineno + 1 ∧
    line = taken.filter (· != '\n') ∧ state.Dispatches taken ready entered

namespace Reached

variable {source other : List Char} {filename : Option String} {state : State}
  {front rest otherRest : List (List Char)}

/-- The lines to come are those behind the lines taken. -/
theorem pending_eq (reached : Reached source filename state) (found : lines source = front ++ rest)
    (number : state.feed.lineno = front.length) : state.feed.pending = rest.map trimEnd := by
  have count : state.feed.lineno = (front.map trimEnd).length := by rw [number, List.length_map]
  rw [reached.placed.position, found, List.map_append, count, List.drop_left]

/-- The reading of a source that shares the lines taken so far comes to the same state, with its own
lines to come. The next line may be another one, but not piped in one source alone. -/
theorem counterpart (reached : Reached source filename state)
    (found : lines source = front ++ rest) (otherFound : lines other = front ++ otherRest)
    (number : state.feed.lineno = front.length)
    (unpiped : (rest.head?.map trimEnd).any isPiped = false →
      (otherRest.head?.map trimEnd).any isPiped = false)
    (ends : rest = [] → otherRest = []) :
    ∃ lineno, Reached other filename
      { state with feed := { state.feed with pending := otherRest.map trimEnd }, lineno } := by
  have pending : (Feed.ofSource filename source).pending =
      front.map trimEnd ++ rest.map trimEnd := by
    rw [Feed.ofSource, found, List.map_append]
  have otherPending : (Feed.ofSource filename other).pending =
      front.map trimEnd ++ otherRest.map trimEnd := by
    rw [Feed.ofSource, otherFound, List.map_append]
  have count : state.feed.lineno = (front.map trimEnd).length := by
    rw [number, List.length_map]
  have alike : (Feed.ofSource filename source).Alike (Feed.ofSource filename other)
      state.feed.lineno ((Feed.ofSource filename source).Settled []) := by
    rw [count]
    refine ⟨?_, ?_, ?_, ?_⟩
    · rw [pending, List.length_append]
      exact Nat.le_add_right ..
    · rw [pending, otherPending, List.take_left, List.take_left]
    · rw [pending, otherPending, ← List.head?_drop, ← List.head?_drop, List.drop_left,
        List.drop_left, List.head?_map, List.head?_map]
      exact unpiped
    · rw [pending, otherPending, List.length_append, List.length_append]
      intro short
      have gone : (rest.map trimEnd).length = 0 := by omega
      rw [ends (List.map_eq_nil_iff.1 (List.eq_nil_of_length_eq_zero gone))]
      exact .inl rfl
  obtain ⟨whole, wholeReached, resumes, feed⟩ := reached.resumes alike (Nat.le_refl _)
  have unchanged : Arena.empty.renumber = id := funext Arena.renumber_empty
  have filter : whole.filter = state.filter := resumes.filter.trans state.filter.restamp_id
  have stack : whole.stack = state.stack := by
    rw [resumes.stack, unchanged, List.map_id]
  have feed : whole.feed = { state.feed with pending := otherRest.map trimEnd } := by
    have filename : state.feed.filename = filename := congrArg Feed.filename reached.feed_eq.1
    rw [feed, Feed.skip, otherPending, count, List.drop_left]
    exact (Feed.mk.injEq ..).mpr ⟨filename.symm, rfl, (Nat.zero_add _).trans count.symm⟩
  refine ⟨whole.lineno, ?_⟩
  rw [← resumes.arena.eq_of_empty, ← resumes.indent, ← filter, ← stack, ← feed,
    ← Arena.renumber_empty state.current, ← resumes.current]
  exact wholeReached

end Reached

end HamlTree.Template
