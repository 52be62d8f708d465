import HamlTree.Proofs.Stepping

/-!
# StepWidth -- all nesting steps of a template are equally wide

`Tracker.checkStep` compares the two innermost steps and no others, and is not asked at all when the
text of a comment opens a level. Still all open levels are multiples of one width, up to the level of
a comment's text (`Tracker.Uniform`). A step of the reading turns the tracker in one of four ways
(`Tracker.Turn`): not at all, to a deeper level whose step was checked, to the text of a comment, or
back to an open level. Nothing opens above the text of a comment, and stepping back from a comment
closes the level of its text, so that level is never below another one (`Uniform.turn`).
-/

set_option autoImplicit false

namespace HamlTree.Indentation

/-- The levels 0, `width`, twice `width` and so on: `count` steps. -/
def ladder (width count : Nat) : List Nat :=
  (List.range (count + 1)).map (· * width)

@[simp] theorem ladder_zero (width : Nat) : ladder width 0 = [0] := by
  simp [ladder]

theorem ladder_succ (width count : Nat) :
    ladder width (count + 1) = ladder width count ++ [(count + 1) * width] := by
  simp [ladder, List.range_succ]

theorem getLast?_ladder (width count : Nat) :
    (ladder width count).getLast? = some (count * width) := by
  simp [ladder, List.getLast?_range]

/-- The lower part of a ladder is a ladder. -/
theorem exists_ladder_of_prefix {width count : Nat} {lower : List Nat} (nonempty : lower ≠ [])
    (initial : lower <+: ladder width count) : ∃ steps, lower = ladder width steps := by
  obtain ⟨steps, length⟩ : ∃ steps, lower.length = steps + 1 :=
    Nat.exists_eq_succ_of_ne_zero (by simpa using nonempty)
  refine ⟨steps, ?_⟩
  have fits := initial.length_le
  have cut : lower = (ladder width count).take (steps + 1) :=
    length ▸ List.prefix_iff_eq_take.1 initial
  rw [cut, ladder, ← List.map_take, List.take_range]
  simp only [ladder, List.length_map, List.length_range] at fits
  rw [Nat.min_eq_left (by omega), ladder]

namespace Tracker

variable {tracker after : Tracker}

theorem levels_eq (tracker : Tracker) :
    tracker.levels = tracker.enclosing.reverse ++ [tracker.current] := by
  simp [levels]

@[simp] theorem getLast?_levels (tracker : Tracker) :
    tracker.levels.getLast? = some tracker.current := by
  simp [levels]

@[simp] theorem levels_deeper (tracker : Tracker) (level : Nat) :
    (tracker.deeper level).levels = tracker.levels ++ [level] := by
  simp [levels, deeper]

@[simp] theorem levels_enterComment (tracker : Tracker) :
    tracker.enterComment.levels = tracker.levels := rfl

/-- All steps have the same width, and one further level is open exactly if the text of a comment is
being read. -/
def Uniform (tracker : Tracker) : Prop :=
  ∃ width count, 0 < width ∧
    if tracker.inComment then
      ∃ body, count * width < body ∧ tracker.levels = ladder width count ++ [body]
    else tracker.levels = ladder width count

/-- The ways in which an accepted line of a template turns the tracker. -/
inductive Turn (tracker : Tracker) : Tracker → Prop where
  | stay : Turn tracker tracker
  | climb {level : Nat} (higher : tracker.current < level) (outside : tracker.inComment = false)
      (even : (tracker.deeper level).checkStep = .ok ()) : Turn tracker (tracker.deeper level)
  | remark {level : Nat} (higher : tracker.current < level) (outside : tracker.inComment = false) :
      Turn tracker (tracker.deeper level).enterComment
  | back {level closed : Nat} {around : List Nat} (lower : level < tracker.current)
      (closes : closeAbove level tracker.current tracker.enclosing = (level, around, closed)) :
      Turn tracker ⟨level, around, none⟩

theorem uniform_empty : Uniform {} :=
  ⟨1, 0, Nat.one_pos, rfl⟩

/-- On a ladder, the next checked step leads to the next rung. On the lowest rung the width is
still open. -/
theorem ladder_climb {width count level : Nat} (positive : 0 < width)
    (levels : tracker.levels = ladder width count) (higher : tracker.current < level)
    (even : (tracker.deeper level).checkStep = .ok ()) :
    ∃ step, 0 < step ∧ tracker.levels = ladder step count ∧
      (tracker.deeper level).levels = ladder step (count + 1) := by
  cases count with
  | zero =>
      refine ⟨level, Nat.zero_lt_of_lt higher, ?_, ?_⟩
      · rw [levels, ladder_zero, ladder_zero]
      · rw [levels_deeper, levels, ladder_succ, ladder_zero, ladder_zero, Nat.zero_add, Nat.one_mul]
  | succ count =>
      have parts := levels
      rw [levels_eq, ladder_succ] at parts
      obtain ⟨around, current⟩ := List.append_inj' parts rfl
      have current : tracker.current = (count + 1) * width := by simpa using current
      have outer : tracker.enclosing.head? = some (count * width) := by
        rw [← getLast?_ladder, ← around, List.getLast?_reverse]
      obtain ⟨others, enclosing⟩ := List.head?_eq_some_iff.1 outer
      -- the step before is `width` wide, so this one is too
      have same : tracker.current - count * width = level - tracker.current := by
        rw [checkStep, deeper, enclosing] at even
        dsimp only at even
        split at even
        · assumption
        · cases even
      have next : level = (count + 1 + 1) * width := by
        rw [current] at same higher
        simp only [Nat.add_mul, Nat.one_mul] at same higher ⊢
        omega
      exact ⟨width, positive, levels, by rw [levels_deeper, levels, ladder_succ width (count + 1), next]⟩

/-- Stepping back leaves some of the levels, the outermost ones, and not all. -/
theorem closed_prefix {level closed : Nat} {around : List Nat}
    (lower : level < tracker.current)
    (closes : closeAbove level tracker.current tracker.enclosing = (level, around, closed)) :
    levels ⟨level, around, none⟩ <+: tracker.levels ∧
      levels ⟨level, around, none⟩ ≠ tracker.levels := by
  obtain ⟨-, dropped, -⟩ := closeAbove_spec closes
  constructor
  · show (level :: around).reverse <+: (tracker.current :: tracker.enclosing).reverse
    rw [← dropped, List.reverse_prefix]
    exact List.drop_suffix ..
  · intro same
    have innermost := congrArg List.getLast? same
    simp only [getLast?_levels, Option.some.injEq] at innermost
    omega

/-- Every turn keeps the steps equally wide. -/
theorem Uniform.turn (uniform : tracker.Uniform) (turn : tracker.Turn after) : after.Uniform := by
  obtain ⟨width, count, positive, levels⟩ := uniform
  cases turn with
  | stay => exact ⟨width, count, positive, levels⟩
  | @climb level higher outside even =>
      rw [if_neg (by simp [outside])] at levels
      obtain ⟨step, wide, -, next⟩ := ladder_climb positive levels higher even
      have stillOutside : (tracker.deeper level).inComment = false := outside
      exact ⟨step, count + 1, wide, by rw [if_neg (by simp [stillOutside])]; exact next⟩
  | @remark level higher outside =>
      rw [if_neg (by simp [outside])] at levels
      have current : tracker.current = count * width := by
        have innermost := getLast?_ladder width count
        rw [← levels, getLast?_levels] at innermost
        exact Option.some.inj innermost
      have inside : (tracker.deeper level).enterComment.inComment = true := rfl
      refine ⟨width, count, positive, ?_⟩
      rw [if_pos inside, levels_enterComment, levels_deeper, levels]
      exact ⟨level, current ▸ higher, rfl⟩
  | @back level closed around lower closes =>
      obtain ⟨initial, fewer⟩ := closed_prefix lower closes
      have within : Tracker.levels ⟨level, around, none⟩ <+: ladder width count := by
        split at levels
        · obtain ⟨body, -, levels⟩ := levels
          rw [levels] at initial fewer
          exact (List.prefix_concat_iff.1 initial).resolve_left fewer
        · exact levels ▸ initial
      obtain ⟨steps, same⟩ := exists_ladder_of_prefix (by simp [Tracker.levels]) within
      exact ⟨width, steps, positive, same⟩

end Tracker

end HamlTree.Indentation

namespace HamlTree.Template

open Indentation

namespace State

variable {source line : List Char} {state ready entered after next : State} {feed : Feed}

theorem Told.indent_eq {text : List Char} (told : Told entered text after) :
    after.indent = entered.indent := by
  cases told <;> rfl

theorem Followed.turn (followed : Followed state line entered)
    (container : state.arena.isContainer state.current = true) :
    state.indent.Turn entered.indent := by
  cases followed with
  | stay why => exact .stay
  | enter solid higher outside enters =>
      obtain ⟨target, -, -, rfl, checked⟩ := enter_cases enters container
      cases comment : state.arena.isAuthorComment target with
      | true => exact .remark higher outside
      | false => exact .climb higher outside (checked comment)
  | leave solid lower outside closes =>
      rw [leaveMany_frame]
      exact .back lower closes

/-- A step of the reading turns the tracker at most once. -/
theorem Stepped.turn (stepped : state.Stepped source next) (aligned : state.Aligned) :
    state.indent.Turn next.indent := by
  cases stepped with
  | collect opened found outside taken single grown => exact .stay
  | read reads told =>
      have turned := reads.followed.turn (reads.started_aligned aligned).container
      rw [addBlanks_frame]
      dsimp only
      rw [told.indent_eq, ← reads.readied.indent_eq]
      exact turned

end State

theorem Reached.uniform {source : List Char} {filename : Option String} {state : State}
    (reached : Reached source filename state) : state.indent.Uniform := by
  induction reached with
  | start => exact Tracker.uniform_empty
  | step reached more steps ih =>
      exact ih.turn ((State.step_stepped reached.placed more steps).turn reached.aligned)

/-- Between any two lines of any template the open levels are the multiples of one width, followed by
one deeper level exactly if the text of a comment is being read. So a line that goes deeper outside
comments is accepted only one step further up: to a first level of its choice, or to the next
multiple. -/
theorem steps_uniform {source : List Char} {filename : Option String} {state : State}
    (reached : Reached source filename state) :
    state.indent.Uniform ∧
      ∀ next, state.feed.hasNext = true → state.step = .ok next →
        state.indent.current < next.indent.current → next.indent.inComment = false →
          ∃ width count, 0 < width ∧ state.indent.levels = ladder width count ∧
            next.indent.levels = ladder width (count + 1) := by
  have uniform := reached.uniform
  refine ⟨uniform, ?_⟩
  intro next more steps deeper outsideNext
  have turn := (State.step_stepped reached.placed more steps).turn reached.aligned
  generalize next.indent = after at turn deeper outsideNext
  cases turn with
  | stay => exact absurd deeper (Nat.lt_irrefl _)
  | climb higher outside even =>
      obtain ⟨width, count, positive, levels⟩ := uniform
      rw [if_neg (by simp [outside])] at levels
      obtain ⟨step, wide, same, climbed⟩ := Tracker.ladder_climb positive levels higher even
      exact ⟨step, count, wide, same, climbed⟩
  | remark higher outside => cases outsideNext
  | back lower closes => exact absurd deeper (Nat.not_lt.2 (Nat.le_of_lt lower))

/-- The third line of this template climbs from level 3 to level 6, and after the fourth, which is the
text of a comment, level 10 is open as well. -/
theorem steps_uniform_in_comment :
    (∃ state next, Reached "%a\n   %b\n      -#\n          x".toList none state ∧
        state.feed.hasNext = true ∧ state.step = .ok next ∧
        state.indent.levels = [0, 3] ∧ next.indent.levels = [0, 3, 6] ∧
        ∃ width count, 0 < width ∧ state.indent.levels = ladder width count ∧
          next.indent.levels = ladder width (count + 1)) ∧
      ∃ state, Reached "%a\n   %b\n      -#\n          x".toList none state ∧
        state.indent.levels = [0, 3, 6, 10] ∧ state.indent.inComment = true ∧
        state.indent.Uniform := by
  have second : Reached "%a\n   %b\n      -#\n          x".toList none _ :=
    .step (.step .start rfl rfl) rfl rfl
  have fourth : Reached "%a\n   %b\n      -#\n          x".toList none _ :=
    .step (.step second rfl rfl) rfl rfl
  constructor
  · exact ⟨_, _, second, rfl, rfl, rfl, rfl,
      (steps_uniform second).2 _ rfl rfl (by decide) rfl⟩
  · exact ⟨_, fourth, rfl, rfl, (steps_uniform fourth).1⟩

end HamlTree.Template
