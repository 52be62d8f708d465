import HamlTree.Indentation
import Mathlib.Data.List.TakeWhile

/-!
# TrackerLaws -- what a line does to the open levels

A `Response` is what an accepted line does to a tracker, guards included: nothing, if it is blank,
lies on the innermost level or is text of a comment; open one level; or close those above its own.
`Tracker.process_response` says that there is nothing else, and `closeAbove_spec` which levels the
last of the three leaves open.

A `Sound` tracker has its levels strictly ascending from 0, and a comment being read lies on the
level next to the innermost.
-/

set_option autoImplicit false

namespace HamlTree.Indentation

/-- Closing takes levels off the top, each of them deeper than the line, as long as there are any
besides the outermost. -/
theorem closeAbove_spec {level current kept closed : Nat} {enclosing around : List Nat}
    (closes : closeAbove level current enclosing = (kept, around, closed)) :
    closed ≤ enclosing.length ∧ (current :: enclosing).drop closed = kept :: around ∧
      ∀ left ∈ (current :: enclosing).take closed, level < left := by
  induction enclosing generalizing current kept around closed with
  | nil =>
      simp only [closeAbove, Prod.mk.injEq] at closes
      obtain ⟨rfl, rfl, rfl⟩ := closes
      exact ⟨Nat.le_refl _, rfl, by simp⟩
  | cons outer others ih =>
      simp only [closeAbove] at closes
      split at closes
      · rename_i deeper
        rcases inner : closeAbove level outer others with ⟨innerKept, innerAround, innerClosed⟩
        rw [inner] at closes
        simp only [Prod.mk.injEq] at closes
        obtain ⟨rfl, rfl, rfl⟩ := closes
        obtain ⟨fits, dropped, above⟩ := ih inner
        refine ⟨by simpa using fits, by simpa using dropped, ?_⟩
        intro left member
        rw [List.take_succ_cons, List.mem_cons] at member
        rcases member with rfl | later
        · exact deeper
        · exact above left later
      · simp only [Prod.mk.injEq] at closes
        obtain ⟨rfl, rfl, rfl⟩ := closes
        exact ⟨Nat.zero_le _, rfl, by simp⟩

/-- Nothing closes only for a line that is no shallower than the innermost level. -/
theorem closeAbove_pos {level current kept closed : Nat} {enclosing around : List Nat}
    (closes : closeAbove level current enclosing = (kept, around, closed))
    (shallower : level < current) (nested : enclosing ≠ []) : 0 < closed := by
  cases enclosing with
  | nil => exact absurd rfl nested
  | cons outer others =>
      simp only [closeAbove, shallower, if_true, Prod.mk.injEq] at closes
      omega

/-- Closing all levels takes an event for each but the outermost. -/
theorem closeAll_eq (current : Nat) (enclosing : List Nat) :
    (current :: enclosing).getLast? = some (closeAll current enclosing).1 ∧
      (closeAll current enclosing).2 = List.replicate enclosing.length (.leave 0) := by
  induction enclosing generalizing current with
  | nil => exact ⟨rfl, rfl⟩
  | cons outer others ih =>
      obtain ⟨last, events⟩ := ih outer
      rw [List.getLast?_cons_cons]
      refine ⟨last, ?_⟩
      change .leave 0 :: (closeAll outer others).2 = _
      rw [events]
      rfl

/-- How deep a line is indented. -/
def levelOf (line : List Char) : Nat :=
  (split line).1.length

theorem split_append (line : List Char) : (split line).1 ++ (split line).2 = line :=
  List.takeWhile_append_dropWhile

theorem split_of_indent {indent : List Char} {c : Char}
    (indents : ∀ blank ∈ indent, isIndent blank = true) (stops : isIndent c = false)
    (tail : List Char) : split (indent ++ c :: tail) = (indent, c :: tail) := by
  simp [split, List.takeWhile_append_of_pos indents, List.dropWhile_append_of_pos indents, stops]

/-- A text does not start with indentation. -/
theorem isIndent_of_split {line tail : List Char} {c : Char} (text : (split line).2 = c :: tail) :
    isIndent c = false := by
  have stops := List.head?_dropWhile_not isIndent line
  simpa [show line.dropWhile isIndent = c :: tail from text] using stops

/-- Indentation without tabs is blanks. -/
theorem split_eq_replicate {line : List Char} (tabless : '\t' ∉ (split line).1) :
    (split line).1 = List.replicate (levelOf line) ' ' := by
  rw [List.eq_replicate_iff]
  refine ⟨rfl, fun c member => ?_⟩
  have indents : isIndent c = true := List.mem_takeWhile_imp member
  simp only [isIndent, Bool.or_eq_true, beq_iff_eq] at indents
  rcases indents with blank | tab
  · exact blank
  · exact absurd (tab ▸ member) tabless

namespace Tracker

/-- The levels ascend strictly from 0 to the innermost, and a comment that is being read lies one
level further out than its text. -/
structure Sound (tracker : Tracker) : Prop where
  steep : (tracker.current :: tracker.enclosing).Pairwise (· > ·)
  base : (tracker.current :: tracker.enclosing).getLast? = some 0
  comment : ∀ {level}, tracker.commentLevel = some level → tracker.enclosing.head? = some level

theorem sound_empty : Sound {} where
  steep := by simp
  base := rfl
  comment := by simp

/-- A finished tracker hands out one event for each level that was open besides the outermost. -/
theorem finish_events (tracker : Tracker) :
    tracker.finish.2 = List.replicate tracker.depth (.leave 0) :=
  (closeAll_eq tracker.current tracker.enclosing).2

/-- A finished tracker is like a new one. -/
theorem Sound.finish_eq {tracker : Tracker} (sound : tracker.Sound) :
    tracker.finish = ({}, List.replicate tracker.depth (.leave 0)) := by
  obtain ⟨outermost, events⟩ := closeAll_eq tracker.current tracker.enclosing
  rw [sound.base] at outermost
  change ((⟨(closeAll tracker.current tracker.enclosing).1, [], none⟩ : Tracker),
    (closeAll tracker.current tracker.enclosing).2) = _
  rw [← Option.some.inj outermost, events]
  rfl

/-- The tracker with one more level open. -/
def deeper (tracker : Tracker) (level : Nat) : Tracker :=
  { tracker with current := level, enclosing := tracker.current :: tracker.enclosing }

/-- What an accepted line makes of a tracker, and the changes of depth it causes. -/
inductive Response (tracker : Tracker) (line : List Char) : Tracker → List Event → Prop where
  /-- A blank line, one on the innermost level, or a comment's text. -/
  | stay (why : (split line).2 = [] ∨ levelOf line = tracker.current ∨
      ∃ comment, tracker.commentLevel = some comment ∧
        (comment < levelOf line ∨ tracker.current < levelOf line)) :
      Response tracker line tracker []
  | enter (solid : (split line).2 ≠ []) (higher : tracker.current < levelOf line)
      (outside : tracker.inComment = false) :
      Response tracker line (tracker.deeper (levelOf line)) [.enter (levelOf line)]
  | leave {around : List Nat} {closed : Nat} (solid : (split line).2 ≠ [])
      (lower : levelOf line < tracker.current)
      (outside : ∀ comment, tracker.commentLevel = some comment → levelOf line ≤ comment)
      (closes : closeAbove (levelOf line) tracker.current tracker.enclosing =
        (levelOf line, around, closed)) :
      Response tracker line ⟨levelOf line, around, none⟩
        (List.replicate closed (.leave (levelOf line)))

theorem leave_response {tracker after : Tracker} {line : List Char} {events : List Event}
    (solid : (split line).2 ≠ []) (lower : levelOf line < tracker.current)
    (outside : ∀ comment, tracker.commentLevel = some comment → levelOf line ≤ comment)
    (left : tracker.leave (levelOf line) = (after, .ok events)) :
    Response tracker line after events := by
  unfold leave at left
  rcases closes : closeAbove (levelOf line) tracker.current tracker.enclosing with
    ⟨kept, around, closed⟩
  rw [closes] at left
  dsimp only at left
  split at left
  · rename_i landed
    subst landed
    cases left
    exact .leave solid lower outside closes
  · cases left

theorem track_response {tracker after : Tracker} {line : List Char} {events : List Event}
    (solid : (split line).2 ≠ []) (tracked : tracker.track (levelOf line) = (after, .ok events)) :
    Response tracker line after events := by
  unfold track at tracked
  split at tracked
  · rename_i higher
    split at tracked
    · rename_i inComment
      cases tracked
      obtain ⟨comment, found⟩ := Option.isSome_iff_exists.1 inComment
      exact .stay (.inr (.inr ⟨comment, found, .inr higher⟩))
    · rename_i outside
      cases tracked
      exact .enter solid higher (by simpa using outside)
  · split at tracked
    · rename_i lower
      split at tracked
      · rename_i comment found
        split at tracked
        · rename_i inside
          cases tracked
          exact .stay (.inr (.inr ⟨comment, found, .inl inside⟩))
        · refine leave_response solid lower (fun other known => ?_) tracked
          rw [found] at known
          cases known
          omega
      · rename_i none
        refine leave_response solid lower (fun other known => ?_) tracked
        rw [none] at known
        cases known
    · cases tracked
      exact .stay (.inr (.inl (by omega)))

/-- An accepted line has no tab in its indentation, keeps its text, and does one of three things. -/
theorem process_response {tracker after : Tracker} {line : List Char} {processed : Processed}
    (accepted : tracker.process line = (after, .ok processed)) :
    '\t' ∉ (split line).1 ∧ processed.text = (split line).2 ∧
      Response tracker line after processed.events := by
  unfold process at accepted
  dsimp only at accepted
  split at accepted
  · cases accepted
  rename_i tabless
  have tabless : '\t' ∉ (split line).1 := by simpa using tabless
  split at accepted
  · rename_i blank
    cases accepted
    exact ⟨tabless, rfl, .stay (.inl (by simpa using blank))⟩
  · rename_i solid
    split at accepted
    · rename_i tracked events follows
      cases accepted
      exact ⟨tabless, rfl, track_response (by simpa using solid) follows⟩
    · cases accepted

/-- A line with text and no tab in its indentation is followed to its level. -/
theorem process_of_solid {line : List Char} (tabless : '\t' ∉ (split line).1)
    (solid : (split line).2 ≠ []) (tracker : Tracker) :
    tracker.process line = ((tracker.track (levelOf line)).1,
      (tracker.track (levelOf line)).2.map fun events =>
        ⟨(split line).2, (split line).1, events⟩) := by
  unfold process levelOf
  dsimp only
  rw [if_neg (by simpa using tabless), if_neg (by simpa using solid)]
  rcases tracker.track (split line).1.length with ⟨after, fault | events⟩
  · rfl
  · rfl

/-- In a comment a line counts as text of the comment if it is deeper than the comment, however deep
the text is otherwise. -/
theorem track_inside {tracker : Tracker} {comment : Nat}
    (inside : tracker.commentLevel = some comment) (deep : comment < tracker.current)
    (level : Nat) :
    tracker.track level = if comment < level then (tracker, .ok []) else tracker.leave level := by
  unfold track inComment
  rw [inside]
  by_cases text : comment < level
  · simp [text]
  · have lower : level < tracker.current := by omega
    simp [text, lower, Nat.not_lt.2 (Nat.le_of_lt lower)]

/-! ## Soundness is kept -/

namespace Sound

variable {tracker : Tracker}

/-- The text of a comment is deeper than the comment. -/
theorem comment_lt (sound : tracker.Sound) {comment : Nat}
    (inside : tracker.commentLevel = some comment) : comment < tracker.current :=
  (List.pairwise_cons.1 sound.steep).1 comment (List.mem_of_mem_head? (sound.comment inside))

theorem deeper (sound : tracker.Sound) {level : Nat} (higher : tracker.current < level)
    (outside : tracker.inComment = false) : (tracker.deeper level).Sound where
  steep := by
    refine List.pairwise_cons.2 ⟨fun other member => ?_, sound.steep⟩
    rcases List.mem_cons.1 member with rfl | outer
    · exact higher
    · exact Nat.lt_trans ((List.pairwise_cons.1 sound.steep).1 other outer) higher
  base := by
    rw [Tracker.deeper, List.getLast?_cons_cons]
    exact sound.base
  comment := by
    intro comment found
    have none : tracker.commentLevel = none := by simpa [inComment] using outside
    simp [Tracker.deeper, none] at found

theorem enterComment (sound : tracker.Sound) : tracker.enterComment.Sound where
  steep := sound.steep
  base := sound.base
  comment := id

/-- Closing levels leaves a sound tracker, whether or not the line lands on one of them. -/
theorem closed (sound : tracker.Sound) {level kept closed : Nat} {around : List Nat}
    (closes : closeAbove level tracker.current tracker.enclosing = (kept, around, closed)) :
    Sound ⟨kept, around, none⟩ := by
  obtain ⟨fits, dropped, -⟩ := closeAbove_spec closes
  refine ⟨?_, ?_, by simp⟩
  · rw [← dropped]
    exact sound.steep.sublist (List.drop_sublist ..)
  · rw [← dropped, List.getLast?_drop, if_neg (by simp only [List.length_cons]; omega)]
    exact sound.base

end Sound

end Tracker

end HamlTree.Indentation
