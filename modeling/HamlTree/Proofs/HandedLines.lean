import HamlTree.Proofs.Continuation
import Mathlib.Data.List.Forall2
import Mathlib.Data.List.TakeWhile

/-!
# HandedLines -- logical lines one after the other

Readers that go on over further lines take them one at a time, and how many they take depends on what
they find. `Feed.Hands feed lines after` says only that `lines` are the next logical lines of `feed`,
in order, and that `after` is what is left behind them; a reader's rule can then be stated about the
lines it took (`Feed.pull_continues`) or about all that it could have taken
(`Element.readGroup_eq_ok_iff`).

What was handed out is accounted for by the physical lines of the feed: a feed that has handed out
some logical lines is past exactly the physical lines that make them up (`Hands.spends`).
-/

set_option autoImplicit false

namespace HamlTree.Feed

open Text

/-- The physical lines that make up a logical line: a line that stands for itself, or a run of piped
lines, folded. -/
inductive MakesUp : List (List Char) → List Char → Prop where
  | plain {line : List Char} (unpiped : isPiped line = false) : MakesUp [line] line
  | folded {first : List Char} {following : List (List Char)}
      (piped : ∀ line ∈ first :: following, isPiped line = true) :
      MakesUp (first :: following) (foldPiped first following)

/-- The next logical lines of a feed, and what is left behind them. -/
inductive Hands : Feed → List (List Char) → Feed → Prop where
  | done (feed : Feed) : Hands feed [] feed
  | line {feed middle after : Feed} {line : List Char} {more : List (List Char)}
      (taken : feed.next = some (line, middle)) (rest : Hands middle more after) :
      Hands feed (line :: more) after

/-- Between `feed` and `after` stand the physical lines that make up these logical lines, and no
others. -/
def Spends (feed : Feed) (lines : List (List Char)) (after : Feed) : Prop :=
  ∃ runs, List.Forall₂ MakesUp runs lines ∧ feed.pending = runs.flatten ++ after.pending ∧
    after = feed.skip runs.flatten.length

/-- A logical line is made up of the physical lines that its taking removes. -/
theorem next_makesUp {feed after : Feed} {line : List Char} (taken : feed.next = some (line, after)) :
    ∃ run, MakesUp run line ∧ feed.pending = run ++ after.pending ∧ after = feed.skip run.length := by
  obtain ⟨first, rest, pending, ⟨unpiped, rfl, moved⟩ | ⟨piped, rfl, moved⟩⟩ := next_eq taken
  · refine ⟨[line], .plain unpiped, ?_, moved⟩
    simp [moved, skip, pending]
  · refine ⟨first :: rest.takeWhile isPiped, .folded ?_, ?_, ?_⟩
    · intro line member
      rcases List.mem_cons.1 member with rfl | member
      · exact piped
      · exact List.mem_takeWhile_imp member
    · simp [moved, skip, pending, Nat.add_comm 1, drop_length_takeWhile]
    · rw [moved, List.length_cons, Nat.add_comm]

namespace Hands

variable {feed middle after : Feed} {lines more : List (List Char)}

theorem spends (hands : feed.Hands lines after) : feed.Spends lines after := by
  induction hands with
  | done feed => exact ⟨[], .nil, rfl, rfl⟩
  | line taken _ ih =>
      obtain ⟨run, makesUp, pending, rfl⟩ := next_makesUp taken
      obtain ⟨runs, each, left, moved⟩ := ih
      refine ⟨run :: runs, .cons makesUp each, ?_, ?_⟩
      · rw [pending, left, List.flatten_cons, List.append_assoc]
      · rw [moved, skip_skip, List.flatten_cons, List.length_append]

/-- Nothing is handed out from an exhausted feed. -/
theorem of_exhausted (hands : feed.Hands lines after) (exhausted : feed.pending = []) :
    lines = [] ∧ after = feed := by
  cases hands with
  | done => exact ⟨rfl, rfl⟩
  | line taken => rw [next_eq_none.2 exhausted] at taken; cases taken

end Hands

end HamlTree.Feed
