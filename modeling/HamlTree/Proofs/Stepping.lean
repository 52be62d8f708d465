import HamlTree.Proofs.Alignment
import HamlTree.Proofs.FilterLaws
import HamlTree.Proofs.LogicalLine

/-!
# Stepping -- the steps that the reading of a source can take

`State.Placed` says where a state stands in its source: the feed has come to its line number, and
the line that opened the filter being read, if one is, is the one named by the filter's stamp and
stands on the innermost level, outside comments.

From a placed state a step does one of two things (`step_stepped`): the line joins the filter, or it
is read, after it ended the filter if one was open. `State.Stepped` says so with all that is known of
the line, so that an invariant of the reading is proved by two cases. `Placed` itself is the first
of these (`Placed.step`).
-/

set_option autoImplicit false

namespace HamlTree.Template

open Indentation FilterBlock Text

namespace State

/-- The line with this text and level opens the filter. -/
def Opens (source : List Char) (draft : Draft) (level : Nat) : Prop :=
  ∃ physical, 0 < draft.stamp.lineno ∧ physicalLine? source draft.stamp.lineno = some physical ∧
    trimEnd physical = List.replicate level ' ' ++ ':' :: draft.name.toList

/-- The feed has come to its place in the source, and a filter being read stands on the innermost
level, outside comments. -/
structure Placed (source : List Char) (state : State) : Prop where
  position : state.feed.At source
  filter : ∀ draft, state.filter.draft = some draft →
    state.inAuthorComment = false ∧ Opens source draft state.indent.current

/-- The state in which a line is read: the feed has moved, and the filter that the line ended is
finished. -/
inductive Ready (state : State) (line : List Char) (feed : Feed) : State → Prop where
  | idle (closed : state.filter.draft = none) : Ready state line feed { state with feed }
  | closing {draft : Draft} (found : state.filter.draft = some draft)
      (outside : state.inAuthorComment = false) (single : line.count '\n' = 0) :
      Ready state line feed ({ state with feed, lineno := feed.lineno, filter := {} }.addFilter
        draft.finish (feed.lineno - 1))

/-- A line is taken, and its indentation has been followed. -/
structure Reads (source : List Char) (state : State) (line physical : List Char) (feed : Feed)
    (ready entered : State) : Prop where
  opened : state.opened = some (line, ready)
  taken : Feed.Taken source state.feed line feed physical
  readied : Ready state line feed ready
  follows : (ready.started line).follow (line.filter (· != '\n')) = .ok entered
  tabless : '\t' ∉ (split (line.filter (· != '\n'))).1
  followed : Followed (ready.started line) (line.filter (· != '\n')) entered

/-- All that a step in the reading of a source can do. -/
inductive Stepped (source : List Char) (state : State) : State → Prop where
  /-- A line joins the filter being read. -/
  | collect {draft : Draft} {text : String} {line physical : List Char} {feed : Feed}
      {filter : Collector}
      (opened : state.opened = some (line, { state with feed, filter, lineno := feed.lineno }))
      (found : state.filter.draft = some draft)
      (outside : state.inAuthorComment = false)
      (taken : Feed.Taken source state.feed line feed physical) (single : line.count '\n' = 0)
      (grown : filter.draft = some (draft.push text)) :
      Stepped source state { state with feed, filter, lineno := feed.lineno }
  /-- A line is read. -/
  | read {line physical : List Char} {feed : Feed} {ready entered after : State}
      (reads : Reads source state line physical feed ready entered)
      (told : Told entered (split (line.filter (· != '\n'))).2 after) :
      Stepped source state
        (after.addBlanks (List.range' (state.feed.lineno + 2) (line.count '\n')))

theorem step_stepped {source : List Char} {state next : State} (placed : state.Placed source)
    (more : state.feed.hasNext = true) (steps : state.step = .ok next) :
    state.Stepped source next := by
  obtain ⟨line, ready, opened, result⟩ := step_cases steps more
  obtain ⟨feed, took, cases⟩ := opened_cases opened
  obtain ⟨physical, taken⟩ := placed.position.taken_take took
  have sameFeed : ready.feed = feed := by
    have := opened_feed opened
    rw [took] at this
    cases this
    rfl
  -- the line is read in a state whose filter is closed
  have reads : Ready state line feed ready → ready.readLogical line = .ok next →
      state.Stepped source next := by
    intro readied reading
    obtain ⟨entered, after, follows, text, rfl⟩ := readLogical_cases reading
    obtain ⟨tabless, followed⟩ := follow_cases follows
    have number : (ready.started line).lineno + 1 = state.feed.lineno + 2 := by
      have := taken.lineno_eq
      simp only [started, sameFeed]
      omega
    rw [number]
    exact .read ⟨opened, taken, readied, follows, tabless, followed⟩ (readText_cases text)
  rcases cases with ⟨plain, rfl⟩ | ⟨filtering, cases⟩
  · have closed : state.filter.draft = none := by
      cases found : state.filter.draft with
      | none => rfl
      | some draft =>
          have outside := (placed.filter draft found).1
          simp [inFilter, outside, Collector.isOpen, found] at plain
    rcases result with ⟨isOpen, -⟩ | ⟨-, reading⟩
    · simp [Collector.isOpen, closed] at isOpen
    · exact reads (.idle closed) reading
  · simp only [inFilter, Bool.and_eq_true, Bool.not_eq_true'] at filtering
    obtain ⟨outside, isOpen⟩ := filtering
    obtain ⟨draft, found⟩ := Option.isSome_iff_exists.1 isOpen
    have single : line.count '\n' = 0 := by
      have raw : state.inFilter = true := by simp [inFilter, outside, isOpen]
      rw [raw] at took
      have moved := taken.moved
      rw [(Feed.nextRaw_eq took).2] at moved
      have := congrArg Feed.lineno moved
      simp only [Feed.skip] at this
      omega
    rcases cases with ⟨goesOn, rfl⟩ | ⟨block, ends, rfl⟩
    · obtain ⟨text, grown⟩ := Collector.append_eq_none found goesOn
      rcases result with ⟨-, rfl⟩ | ⟨closed, -⟩
      · exact .collect opened found outside taken single grown
      · simp [Collector.isOpen, grown] at closed
    · obtain ⟨rfl, emptied⟩ := Collector.append_eq_some found ends
      rw [emptied] at result reads
      rcases result with ⟨isOpen, -⟩ | ⟨-, reading⟩
      · rw [addFilter_frame] at isOpen
        cases isOpen
      · exact reads (.closing found outside single) reading

/-- At the end of a template a filter that is still being read is finished. -/
theorem flushed_cases (state : State) :
    (state.filter.draft = none ∧ state.flushed = state) ∨
      ∃ draft, state.filter.draft = some draft ∧
        state.flushed =
          { state with filter := {} }.addFilter draft.finish state.feed.lineno := by
  unfold flushed Collector.finish
  cases found : state.filter.draft with
  | none => exact .inl ⟨rfl, by simp [Collector.close, found]⟩
  | some draft => exact .inr ⟨draft, rfl, by rw [Collector.close_of_draft found]⟩

/-! ## Placed states are followed by placed states -/

section Reads

variable {source line physical : List Char} {state ready entered : State} {feed : Feed}

theorem Ready.frame (readied : Ready state line feed ready) :
    ready.feed = feed ∧ ready.filter.draft = none := by
  cases readied with
  | idle closed => exact ⟨rfl, closed⟩
  | closing found outside single =>
      rw [addFilter_frame]
      exact ⟨rfl, rfl⟩

theorem Ready.indent_eq (readied : Ready state line feed ready) : ready.indent = state.indent := by
  cases readied with
  | idle closed => rfl
  | closing found outside single => rw [addFilter_frame]

theorem Ready.grows (readied : Ready state line feed ready) : Grows state ready := by
  cases readied with
  | idle closed => exact .single (.note state feed state.filter state.lineno)
  | closing found outside single =>
      exact .head (.note state feed {} feed.lineno) (grows_addFilter ..)

namespace Reads

theorem feed_eq (reads : Reads source state line physical feed ready entered) :
    entered.feed = feed :=
  reads.followed.frame.1.trans reads.readied.frame.1

theorem closed (reads : Reads source state line physical feed ready entered) :
    entered.filter.draft = none := by
  rw [reads.followed.frame.2.1]
  exact reads.readied.frame.2

theorem ready_closed (reads : Reads source state line physical feed ready entered) :
    ready.filter.isOpen = false := by
  simp [Collector.isOpen, reads.readied.frame.2]

theorem lineno_eq (reads : Reads source state line physical feed ready entered) :
    entered.lineno = state.feed.lineno + 1 := by
  have moved := reads.taken.lineno_eq
  rw [reads.followed.frame.2.2, started, reads.readied.frame.1]
  dsimp only
  omega

theorem grows (reads : Reads source state line physical feed ready entered) :
    Grows state (ready.started line) :=
  reads.readied.grows.trans (grows_started ready line)

theorem started_aligned (reads : Reads source state line physical feed ready entered)
    (aligned : state.Aligned) : (ready.started line).Aligned :=
  aligned.grows reads.grows

theorem aligned (reads : Reads source state line physical feed ready entered)
    (aligned : state.Aligned) : entered.Aligned :=
  (reads.started_aligned aligned).follow reads.followed

end Reads

/-- A step whose line finds no filter open reads that line. -/
theorem Stepped.reads {next : State} (stepped : state.Stepped source next)
    (opened : state.opened = some (line, ready)) (closed : ready.filter.isOpen = false) :
    ∃ physical feed entered after, Reads source state line physical feed ready entered ∧
      Told entered (split (line.filter (· != '\n'))).2 after ∧
      next = after.addBlanks (List.range' (state.feed.lineno + 2) (line.count '\n')) := by
  cases stepped with
  | collect alsoOpened found outside taken single grown =>
      cases opened.symm.trans alsoOpened
      simp [Collector.isOpen, grown] at closed
  | read reads told =>
      cases opened.symm.trans reads.opened
      exact ⟨_, _, _, _, reads, told, rfl⟩

end Reads

/-- A filter line ends in its name, so nothing is folded into it. -/
theorem getLast?_filterLine {indent name : List Char} (word : name.all isWord = true) {c : Char}
    (noSign : c ≠ ':') (noWord : isWord c = false) : (indent ++ ':' :: name).getLast? ≠ some c := by
  rw [List.getLast?_append_cons]
  intro last
  rcases List.mem_cons.1 (List.mem_of_getLast? last) with colon | member
  · exact noSign colon
  · exact absurd (List.all_eq_true.1 word c member) (by simp [noWord])

namespace Placed

variable {source : List Char} {state next : State}

theorem ofSource (source : List Char) (filename : Option String) :
    (State.ofSource source filename).Placed source where
  position := Feed.at_ofSource filename source
  filter draft found := by cases found

/-- A line that opens a filter opens it on its own level. -/
theorem opens {ready entered : State} {line physical name : List Char} {feed : Feed}
    (aligned : state.Aligned) (reads : Reads source state line physical feed ready entered)
    (outside : entered.inAuthorComment = false)
    (named : (split (line.filter (· != '\n'))).2 = ':' :: name) (word : name.all isWord = true) :
    line.count '\n' = 0 ∧ ∀ filename : Option String,
      Opens source { name := String.ofList name, stamp := ⟨filename, entered.lineno⟩ }
        entered.indent.current := by
  have joined : line.filter (· != '\n') =
      List.replicate (levelOf (line.filter (· != '\n'))) ' ' ++ ':' :: name := by
    rw [← split_eq_replicate reads.tabless, ← named]
    exact List.takeWhile_append_dropWhile.symm
  have ends : (line.filter (· != '\n')).getLast? ≠ some ' ' := by
    rw [joined]
    exact getLast?_filterLine word (by decide) (by decide)
  obtain ⟨same, single⟩ := reads.taken.whole ends
  have level : entered.indent.current = levelOf (line.filter (· != '\n')) :=
    (reads.started_aligned aligned).current_eq reads.followed (by simp [named]) outside
  refine ⟨single, fun filename => ⟨physical, ?_, ?_, ?_⟩⟩
  · rw [reads.lineno_eq]
    exact Nat.succ_pos _
  · rw [reads.lineno_eq]
    exact reads.taken.physical_eq
  · rw [level, ← same, String.toList_ofList]
    exact joined

theorem step (placed : state.Placed source) (aligned : state.Aligned)
    (stepped : state.Stepped source next) : next.Placed source := by
  cases stepped with
  | collect opened found outside taken single grown =>
      refine ⟨placed.position.ahead taken.ahead, fun draft now => ⟨outside, ?_⟩⟩
      cases grown.symm.trans now
      exact (placed.filter _ found).2
  | @read line physical feed ready entered after reads told =>
      have position : after.feed.At source :=
        (placed.position.ahead reads.taken.ahead).ahead (reads.feed_eq ▸ told.ahead)
      cases told with
      | filter outside named word =>
          obtain ⟨single, opens⟩ := opens aligned reads outside named word
          rw [single]
          refine ⟨position, fun draft now => ?_⟩
          cases now
          exact ⟨outside, opens _⟩
      | blank _ | remark _ _ | node _ _ _ _ | nothing _ _ _ _ =>
          rw [addBlanks_frame]
          refine ⟨position, fun draft now => ?_⟩
          cases reads.closed.symm.trans now

end Placed

end State

/-- Every state between two lines stands at its place in the source. -/
theorem Reached.placed {source : List Char} {filename : Option String} {state : State}
    (reached : Reached source filename state) : state.Placed source := by
  induction reached with
  | start => exact .ofSource source filename
  | step reached more steps ih =>
      exact ih.step reached.aligned (State.step_stepped ih more steps)

end HamlTree.Template
