import HamlTree.Proofs.TrackerLaws

/-!
# TrackerCalls -- a tracker under any sequence of calls

Whoever owns a tracker may give it lines, make its innermost level the text of a comment, have the
last step checked and close all levels, in any order and also after a call that failed.
`Tracker.calls` is such a sequence, with one answer per `Call`.

Each call leaves a sound tracker (`sound_call`). That includes a line that steps back to no open
level: it fails, but has closed the levels deeper than its own. In a sound tracker the levels ascend,
so what closes is what is deeper, wherever it stands (`closeAbove_eq`), and the answer to a line has a
closed form (`Sound.followsLevels`). Inside a comment that form holds for the lines that end the
comment, while deeper lines change nothing (`Sound.process_remark`, `Sound.process_ending`).

Each call hands out as many changes of depth as the depth changes by (`call_balance`).
-/

set_option autoImplicit false

namespace HamlTree.Indentation

/-- A line with `level` blanks before its text. -/
def lineAt (level : Nat) (text : List Char) : List Char :=
  List.replicate level ' ' ++ text

/-- Something that is not indentation comes first. -/
def IsText (text : List Char) : Prop :=
  ∃ first rest, text = first :: rest ∧ isIndent first = false

/-- The event opens a level. -/
def Event.isEnter : Event → Bool
  | .enter _ => true
  | .leave _ => false

/-- The event closes a level. -/
def Event.isLeave : Event → Bool
  | .enter _ => false
  | .leave _ => true

/-! ## Lines -/

theorem IsText.ne_nil {text : List Char} (isText : IsText text) : text ≠ [] := by
  obtain ⟨first, rest, rfl, -⟩ := isText
  simp

theorem split_lineAt {text : List Char} (isText : IsText text) (level : Nat) :
    split (lineAt level text) = (List.replicate level ' ', text) := by
  obtain ⟨first, rest, rfl, stops⟩ := isText
  apply split_of_indent
  · intro blank member
    rw [List.eq_of_mem_replicate member]
    rfl
  · exact stops

theorem levelOf_lineAt {text : List Char} (isText : IsText text) (level : Nat) :
    levelOf (lineAt level text) = level := by
  simp [levelOf, split_lineAt isText]

/-- A line with text is followed to its level, which is the number of its blanks. -/
theorem Tracker.process_lineAt {text : List Char} (isText : IsText text) (level : Nat)
    (tracker : Tracker) :
    tracker.process (lineAt level text) = ((tracker.track level).1,
      (tracker.track level).2.map fun events => ⟨text, List.replicate level ' ', events⟩) := by
  have tabless : '\t' ∉ (split (lineAt level text)).1 := by
    simp [split_lineAt isText, List.mem_replicate]
  have solid : (split (lineAt level text)).2 ≠ [] := by
    rw [split_lineAt isText]
    exact isText.ne_nil
  rw [process_of_solid tabless solid, levelOf_lineAt isText, split_lineAt isText]

/-! ## What closes -/

/-- Of levels that ascend from 0, those deeper than the line close. -/
theorem closeAbove_eq {current : Nat} {enclosing : List Nat}
    (steep : (current :: enclosing).Pairwise (· > ·))
    (base : (current :: enclosing).getLast? = some 0) (level : Nat) :
    ∃ kept around,
      closeAbove level current enclosing =
        (kept, around, (current :: enclosing).countP (level < ·)) ∧
      (current :: enclosing).filter (· ≤ level) = kept :: around := by
  induction enclosing generalizing current with
  | nil =>
      obtain rfl : current = 0 := by simpa using base
      exact ⟨0, [], by simp [closeAbove], by simp⟩
  | cons outer others ih =>
      obtain ⟨above, steep⟩ := List.pairwise_cons.1 steep
      rw [List.getLast?_cons_cons] at base
      by_cases deeper : level < current
      · obtain ⟨kept, around, closes, left⟩ := ih steep base
        refine ⟨kept, around, ?_, ?_⟩
        · have one : (current :: outer :: others).countP (level < ·) =
              (outer :: others).countP (level < ·) + 1 :=
            List.countP_cons_of_pos (by simpa using deeper)
          rw [closeAbove, if_pos deeper, closes, one]
        · rw [List.filter_cons_of_neg (by simpa using deeper)]
          exact left
      · -- no level is deeper than the innermost one
        have within : ∀ other ∈ current :: outer :: others, other ≤ level := by
          intro other member
          rcases List.mem_cons.1 member with rfl | around
          · omega
          · have := above other around
            omega
        refine ⟨current, outer :: others, ?_, ?_⟩
        · rw [closeAbove, if_neg deeper, List.countP_eq_zero.2 fun other member => by
            simpa using within other member]
        · exact List.filter_eq_self.2 fun other member => by simpa using within other member

namespace Tracker

/-- All levels of a tracker lie between the outermost and the innermost. -/
theorem Sound.le_current {tracker : Tracker} (sound : tracker.Sound) {level : Nat}
    (isOpen : level ∈ tracker.levels) : level ≤ tracker.current := by
  rw [levels, List.mem_reverse] at isOpen
  rcases List.mem_cons.1 isOpen with rfl | outer
  · exact Nat.le_refl _
  · exact Nat.le_of_lt ((List.pairwise_cons.1 sound.steep).1 level outer)

/-- Stepping back closes the levels deeper than the line, and fails unless its own is open. -/
theorem Sound.leave_eq {tracker : Tracker} (sound : tracker.Sound) (level : Nat) :
    ∃ after : Tracker, after.commentLevel = none ∧
      after.levels = tracker.levels.filter (· ≤ level) ∧
      tracker.leave level = (after,
        if level ∈ tracker.levels then
          .ok (List.replicate (tracker.levels.countP (level < ·)) (.leave level))
        else .error (.unknownLevel level after.levels)) := by
  obtain ⟨kept, around, closes, left⟩ := closeAbove_eq sound.steep sound.base level
  have lands : level = kept ↔ level ∈ tracker.levels := by
    have keeps : ∀ other, other ∈ kept :: around ↔ other ∈ tracker.levels ∧ other ≤ level := by
      intro other
      rw [← left, List.mem_filter, levels, List.mem_reverse, decide_eq_true_iff]
    constructor
    · rintro rfl
      exact ((keeps level).1 List.mem_cons_self).1
    · intro isOpen
      have descends : (kept :: around).Pairwise (· > ·) := left ▸ sound.steep.filter _
      rcases List.mem_cons.1 ((keeps level).2 ⟨isOpen, Nat.le_refl _⟩) with same | outer
      · exact same
      · have lower := (List.pairwise_cons.1 descends).1 level outer
        have upper := ((keeps kept).1 List.mem_cons_self).2
        omega
  have count : tracker.levels.countP (level < ·) =
      (tracker.current :: tracker.enclosing).countP (level < ·) := List.countP_reverse
  refine ⟨⟨kept, around, none⟩, rfl, ?_, ?_⟩
  · show (kept :: around).reverse = _
    rw [← left, levels, List.filter_reverse]
  · unfold leave
    rw [closes, count]
    by_cases landed : level = kept
    · simp only [if_pos landed, if_pos (lands.1 landed)]
    · simp only [if_neg landed, if_neg (mt lands.2 landed)]

/-! ## The closed form of a line -/

/-- A line on this level is accepted exactly if it opens a level or lies on one. Then the levels
shallower than it stay open and its own is the innermost, and the changes of depth are one opening, or
one closing for each deeper level. -/
structure FollowsLevels (tracker : Tracker) (level : Nat) (text : List Char) : Prop where
  accepted_iff : (tracker.process (lineAt level text)).2.isOk = true ↔
    tracker.current < level ∨ level ∈ tracker.levels
  effect : ∀ {after : Tracker} {processed : Processed},
    tracker.process (lineAt level text) = (after, .ok processed) →
      after.levels = tracker.levels.filter (· < level) ++ [level] ∧
        processed = ⟨text, List.replicate level ' ',
          if tracker.current < level then [.enter level]
          else List.replicate (tracker.levels.countP (level < ·)) (.leave level)⟩

section Lines

variable {tracker : Tracker} {level : Nat}

/-- The levels up to one that is open are those before it and the level itself. -/
theorem Sound.filter_le (sound : tracker.Sound) (isOpen : level ∈ tracker.levels) :
    tracker.levels.filter (· ≤ level) = tracker.levels.filter (· < level) ++ [level] := by
  have ascends : tracker.levels.Pairwise (· < ·) := List.pairwise_reverse.2 sound.steep
  generalize tracker.levels = levels at isOpen ascends
  obtain ⟨before, behind, rfl⟩ := List.append_of_mem isOpen
  obtain ⟨-, later, earlier⟩ := List.pairwise_append.1 ascends
  have lower : ∀ other ∈ before, other < level :=
    fun other member => earlier other member level List.mem_cons_self
  have upper : ∀ other ∈ behind, level < other := (List.pairwise_cons.1 later).1
  have gone : ∀ test : Nat → Bool, (∀ other, level < other → test other = false) →
      behind.filter test = [] := by
    intro test fails
    rw [List.filter_eq_nil_iff]
    intro other member
    simp [fails other (upper other member)]
  have all : ∀ test : Nat → Bool, (∀ other, other < level → test other = true) →
      before.filter test = before := by
    intro test passes
    rw [List.filter_eq_self]
    exact fun other member => passes other (lower other member)
  rw [List.filter_append, List.filter_append, List.filter_cons_of_pos (by simp),
    List.filter_cons_of_neg (by simp), gone (· ≤ level) (by simp), gone (· < level) (by simp; omega),
    all (· ≤ level) (by simp; omega), all (· < level) (by simp), List.append_nil]

/-- Outside comments a line is accepted if its level can be opened or is open. -/
theorem Sound.track_outside (sound : tracker.Sound) (outside : tracker.commentLevel = none)
    (level : Nat) :
    ∃ after : Tracker,
      tracker.track level = (after,
        if tracker.current < level then .ok [.enter level]
        else if level ∈ tracker.levels then
          .ok (List.replicate (tracker.levels.countP (level < ·)) (.leave level))
        else .error (.unknownLevel level after.levels)) ∧
      (tracker.current < level ∨ level ∈ tracker.levels →
        after.levels = tracker.levels.filter (· < level) ++ [level]) := by
  rcases Nat.lt_trichotomy tracker.current level with higher | same | lower
  · refine ⟨tracker.deeper level, ?_, fun _ => ?_⟩
    · unfold track inComment
      rw [if_pos higher, outside, if_neg (by simp), if_pos higher, Tracker.deeper, outside]
    · have shallower : tracker.levels.filter (· < level) = tracker.levels := by
        rw [List.filter_eq_self]
        intro other isOpen
        have := sound.le_current isOpen
        simp only [decide_eq_true_eq]
        omega
      rw [shallower]
      simp [levels, Tracker.deeper]
  · have isOpen : level ∈ tracker.levels := by simp [levels, same]
    have none : tracker.levels.countP (level < ·) = 0 := by
      rw [List.countP_eq_zero]
      intro other member
      have := sound.le_current member
      simp only [decide_eq_true_eq]
      omega
    refine ⟨tracker, ?_, fun _ => ?_⟩
    · unfold track
      rw [if_neg (by omega), if_neg (by omega), if_neg (by omega), if_pos isOpen, none]
      rfl
    · rw [← sound.filter_le isOpen, eq_comm, List.filter_eq_self]
      intro other member
      have := sound.le_current member
      simp only [decide_eq_true_eq]
      omega
  · obtain ⟨after, -, left, leaves⟩ := sound.leave_eq level
    refine ⟨after, ?_, fun admits => ?_⟩
    · unfold track
      rw [if_neg (by omega), if_pos lower, outside, if_neg (by omega)]
      exact leaves
    · have isOpen : level ∈ tracker.levels := admits.resolve_left (by omega)
      rw [left, sound.filter_le isOpen]

theorem Sound.followsLevels (sound : tracker.Sound) (outside : tracker.commentLevel = none)
    {text : List Char} (isText : IsText text) (level : Nat) : tracker.FollowsLevels level text := by
  obtain ⟨after, tracks, levels⟩ := sound.track_outside outside level
  constructor
  · rw [process_lineAt isText, tracks]
    by_cases higher : tracker.current < level
    · simp [higher, Except.map, Except.isOk, Except.toBool]
    · by_cases isOpen : level ∈ tracker.levels
      · simp [higher, isOpen, Except.map, Except.isOk, Except.toBool]
      · simp [higher, isOpen, Except.map, Except.isOk, Except.toBool]
  · intro final processed accepted
    rw [process_lineAt isText, tracks] at accepted
    by_cases higher : tracker.current < level
    · simp only [higher, if_true, Except.map, Prod.mk.injEq, Except.ok.injEq] at accepted
      obtain ⟨rfl, rfl⟩ := accepted
      exact ⟨levels (.inl higher), by rw [if_pos higher]⟩
    · by_cases isOpen : level ∈ tracker.levels
      · simp only [higher, isOpen, if_true, if_false, Except.map, Prod.mk.injEq,
          Except.ok.injEq] at accepted
        obtain ⟨rfl, rfl⟩ := accepted
        exact ⟨levels (.inr isOpen), by rw [if_neg higher]⟩
      · simp [higher, isOpen, Except.map] at accepted

/-- A comment's text changes nothing. -/
theorem Sound.process_remark (sound : tracker.Sound) {comment : Nat}
    (inside : tracker.commentLevel = some comment) (deeper : comment < level) {text : List Char}
    (isText : IsText text) :
    tracker.process (lineAt level text) =
      (tracker, .ok ⟨text, List.replicate level ' ', []⟩) := by
  rw [process_lineAt isText, track_inside inside (sound.comment_lt inside), if_pos deeper]
  rfl

/-- A line that ends a comment is followed as if there had been none. -/
theorem Sound.process_ending (sound : tracker.Sound) {comment : Nat}
    (inside : tracker.commentLevel = some comment) (ends : level ≤ comment) {text : List Char}
    (isText : IsText text) :
    tracker.process (lineAt level text) =
        { tracker with commentLevel := none }.process (lineAt level text) ∧
      (tracker.process (lineAt level text)).1.commentLevel = none := by
  have deep := sound.comment_lt inside
  have tracks : tracker.track level = tracker.leave level := by
    rw [track_inside inside deep, if_neg (Nat.not_lt.2 ends)]
  have tracksPlainly : { tracker with commentLevel := none }.track level = tracker.leave level := by
    unfold track
    rw [if_neg (by dsimp only; omega), if_pos (by dsimp only; omega)]
    rfl
  obtain ⟨after, plain, -, leaves⟩ := sound.leave_eq level
  constructor
  · rw [process_lineAt isText, process_lineAt isText, tracks, tracksPlainly]
  · rw [process_lineAt isText, tracks, leaves]
    exact plain

end Lines

/-! ## Calls -/

/-- What the owner of a tracker can ask of it. -/
inductive Call where
  | process (line : List Char)
  | enterComment
  | checkStep
  | finish
deriving DecidableEq, Repr

/-- The tracker after a call, and the changes of depth it hands out or why it fails. -/
def call (tracker : Tracker) : Call → Tracker × Except Fault (List Event)
  | .process line =>
    ((tracker.process line).1, (tracker.process line).2.map Processed.events)
  | .enterComment => (tracker.enterComment, .ok [])
  | .checkStep => (tracker, tracker.checkStep.map fun _ => [])
  | .finish => (tracker.finish.1, .ok tracker.finish.2)

/-- The tracker after some calls, whether or not they fail, and their answers in order. -/
def calls (tracker : Tracker) : List Call → Tracker × List (Except Fault (List Event))
  | [] => (tracker, [])
  | first :: rest =>
    let (after, answer) := tracker.call first
    let (last, answers) := after.calls rest
    (last, answer :: answers)

section Calls

variable {tracker after : Tracker}

theorem sound_leave (sound : tracker.Sound) (level : Nat) : (tracker.leave level).1.Sound := by
  unfold Tracker.leave
  rcases closes : closeAbove level tracker.current tracker.enclosing with ⟨kept, around, closed⟩
  dsimp only
  split
  · exact sound.closed closes
  · exact sound.closed closes

theorem sound_track (sound : tracker.Sound) (level : Nat) : (tracker.track level).1.Sound := by
  unfold Tracker.track
  split
  · rename_i higher
    split
    · exact sound
    · rename_i outside
      exact sound.deeper higher (by simpa using outside)
  · split
    · split
      · split
        · exact sound
        · exact sound_leave sound level
      · exact sound_leave sound level
    · exact sound

theorem sound_process (sound : tracker.Sound) (line : List Char) :
    (tracker.process line).1.Sound := by
  have tracked := sound_track sound (split line).1.length
  unfold Tracker.process
  dsimp only
  split
  · exact sound
  · split
    · exact sound
    · rcases tracks : tracker.track (split line).1.length with ⟨next, fault | events⟩
      · rw [tracks] at tracked
        exact tracked
      · rw [tracks] at tracked
        exact tracked

/-- A call keeps a tracker sound, also if it fails. -/
theorem sound_call (sound : tracker.Sound) (first : Call) : (tracker.call first).1.Sound := by
  cases first with
  | process line => exact sound_process sound line
  | enterComment => exact sound.enterComment
  | checkStep => exact sound
  | finish =>
      rw [call, sound.finish_eq]
      exact sound_empty

theorem sound_calls (sound : tracker.Sound) (sequence : List Call) :
    (tracker.calls sequence).1.Sound := by
  induction sequence generalizing tracker with
  | nil => exact sound
  | cons first rest ih =>
      have next := sound_call sound first
      exact ih next

/-- The depth changes by what is handed out. -/
theorem call_balance {first : Call} {events : List Event}
    (answered : tracker.call first = (after, .ok events)) :
    events.countP Event.isEnter + tracker.depth = events.countP Event.isLeave + after.depth := by
  have leaves : ∀ count level, (List.replicate count (Event.leave level)).countP Event.isEnter = 0 ∧
      (List.replicate count (Event.leave level)).countP Event.isLeave = count := by
    intro count level
    simp [List.countP_replicate, Event.isEnter, Event.isLeave]
  cases first with
  | process line =>
      rcases processes : tracker.process line with ⟨next, fault | processed⟩
      · simp [call, processes, Except.map] at answered
      · simp only [call, processes, Except.map, Prod.mk.injEq, Except.ok.injEq] at answered
        obtain ⟨rfl, rfl⟩ := answered
        obtain ⟨-, -, response⟩ := process_response processes
        generalize processed.events = events at response
        cases response with
        | stay why => rfl
        | enter solid higher outside => simp [Event.isEnter, Event.isLeave, depth, deeper]; omega
        | @leave around closed solid lower outside closes =>
            obtain ⟨fits, dropped, -⟩ := closeAbove_spec closes
            have lengths := congrArg List.length dropped
            simp only [List.length_drop, List.length_cons] at lengths
            rw [(leaves _ _).1, (leaves _ _).2]
            simp only [depth]
            omega
  | enterComment =>
      cases answered
      rfl
  | checkStep =>
      cases checks : tracker.checkStep with
      | error fault => simp [call, checks, Except.map] at answered
      | ok passed =>
          simp only [call, checks, Except.map, Prod.mk.injEq, Except.ok.injEq] at answered
          obtain ⟨rfl, rfl⟩ := answered
          rfl
  | finish =>
      cases answered
      rw [finish_events, (leaves _ _).1, (leaves _ _).2]
      simp [finish, depth]

theorem calls_balance {sequence : List Call} {handed : List (List Event)}
    (answered : tracker.calls sequence = (after, handed.map .ok)) :
    handed.flatten.countP Event.isEnter + tracker.depth =
      handed.flatten.countP Event.isLeave + after.depth := by
  induction sequence generalizing tracker handed with
  | nil =>
      simp only [calls, Prod.mk.injEq] at answered
      obtain ⟨rfl, none⟩ := answered
      obtain rfl : handed = [] := by simpa using none.symm
      rfl
  | cons first rest ih =>
      rcases answers : tracker.call first with ⟨next, answer⟩
      rcases others : next.calls rest with ⟨last, more⟩
      simp only [calls, answers, others, Prod.mk.injEq] at answered
      obtain ⟨rfl, listed⟩ := answered
      cases handed with
      | nil => cases listed
      | cons events handed =>
          obtain ⟨rfl, rfl⟩ := List.cons.inj listed
          have one := call_balance answers
          have rest := ih others
          simp only [List.flatten_cons, List.countP_append]
          omega

end Calls

/-- Whatever calls a new tracker has served, failed ones among them, its levels ascend strictly from
0, and a comment being read lies on the level just below the innermost one. Outside comments a line
with text follows the levels. In a comment a deeper line changes nothing, and any other line follows
the levels and ends the comment. Without failed calls, the levels opened are those closed and those
still open, and finishing closes as many as are open and leaves the tracker as new. -/
theorem calls_follow_levels {sequence : List Call} {tracker : Tracker}
    {answers : List (Except Fault (List Event))}
    (served : ({} : Tracker).calls sequence = (tracker, answers)) :
    (tracker.levels.Pairwise (· < ·) ∧ tracker.levels.head? = some 0 ∧
        ∀ comment, tracker.commentLevel = some comment →
          ∃ below, tracker.levels = below ++ [comment, tracker.current]) ∧
      (∀ text level, IsText text → tracker.commentLevel = none →
        tracker.FollowsLevels level text) ∧
      (∀ text level comment, IsText text → tracker.commentLevel = some comment →
        (comment < level →
          tracker.process (lineAt level text) =
            (tracker, .ok ⟨text, List.replicate level ' ', []⟩)) ∧
        (level ≤ comment →
          tracker.process (lineAt level text) =
              { tracker with commentLevel := none }.process (lineAt level text) ∧
            { tracker with commentLevel := none }.FollowsLevels level text ∧
            (tracker.process (lineAt level text)).1.commentLevel = none)) ∧
      (∀ handed : List (List Event), answers = handed.map .ok →
        handed.flatten.countP Event.isEnter =
          handed.flatten.countP Event.isLeave + tracker.depth) ∧
      tracker.finish = ({}, List.replicate tracker.depth (.leave 0)) := by
  have sound : tracker.Sound := by
    have kept := sound_calls sound_empty sequence
    rwa [served] at kept
  refine ⟨⟨List.pairwise_reverse.2 sound.steep, ?_, fun comment inside => ?_⟩,
    fun text level isText outside => sound.followsLevels outside isText level,
    fun text level comment isText inside => ⟨fun deeper => ?_, fun ends => ?_⟩,
    fun handed fine => ?_, sound.finish_eq⟩
  · rw [levels, List.head?_reverse]
    exact sound.base
  · obtain ⟨around, enclosing⟩ := List.head?_eq_some_iff.1 (sound.comment inside)
    refine ⟨around.reverse, ?_⟩
    simp [levels, enclosing]
  · exact sound.process_remark inside deeper isText
  · obtain ⟨same, ended⟩ := sound.process_ending inside ends isText
    have plain : Sound { tracker with commentLevel := none } :=
      ⟨sound.steep, sound.base, fun found => by cases found⟩
    exact ⟨same, plain.followsLevels rfl isText level, ended⟩
  · subst fine
    have balance := calls_balance served
    simpa [depth] using balance

/-- In the first sequence a comment's text is being read when a line steps back to a level that was
never open. That line fails and has closed both levels; the next one opens a level of its own. In the
second the text of a comment is being read at the end, and no call has failed. -/
theorem calls_follow_levels_behind_fault :
    (({} : Tracker).calls
          [.process "%div".toList, .process "    -#".toList, .process "        deep".toList,
            .enterComment, .process "      less".toList, .process "  %p".toList,
            .process "   a".toList, .checkStep] =
          (⟨3, [0], none⟩, [.ok [], .ok [.enter 4], .ok [.enter 8], .ok [], .ok [],
            .error (.unknownLevel 2 [0]), .ok [.enter 3], .ok []]) ∧
        (⟨3, [0], none⟩ : Tracker).FollowsLevels 0 "b".toList) ∧
      ({} : Tracker).calls
          [.process "-#".toList, .process "  a".toList, .enterComment, .process "      b".toList] =
          (⟨2, [0], some 0⟩, [[], [.enter 2], [], []].map .ok) ∧
        (⟨2, [0], some 0⟩ : Tracker).process (lineAt 1 "b".toList) =
          (⟨2, [0], some 0⟩, .ok ⟨"b".toList, [' '], []⟩) ∧
        [[], [.enter 2], [], []].flatten.countP Event.isEnter =
          [[], [.enter 2], [], []].flatten.countP Event.isLeave + 1 := by
  have isText : IsText "b".toList := ⟨'b', [], rfl, rfl⟩
  have failing : ({} : Tracker).calls
      [.process "%div".toList, .process "    -#".toList, .process "        deep".toList,
        .enterComment, .process "      less".toList, .process "  %p".toList,
        .process "   a".toList, .checkStep] =
      (⟨3, [0], none⟩, [.ok [], .ok [.enter 4], .ok [.enter 8], .ok [], .ok [],
        .error (.unknownLevel 2 [0]), .ok [.enter 3], .ok []]) := by decide
  have fine : ({} : Tracker).calls
      [.process "-#".toList, .process "  a".toList, .enterComment, .process "      b".toList] =
      (⟨2, [0], some 0⟩, [[], [.enter 2], [], []].map .ok) := by decide
  obtain ⟨-, outside, -⟩ := calls_follow_levels failing
  obtain ⟨-, -, inside, balance, -⟩ := calls_follow_levels fine
  exact ⟨⟨failing, outside _ 0 isText rfl⟩, fine, (inside _ 1 0 isText rfl).1 (by decide),
    balance _ rfl⟩

end Tracker

end HamlTree.Indentation
