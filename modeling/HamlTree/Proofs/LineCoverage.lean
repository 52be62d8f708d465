import HamlTree.Proofs.PlainReading
import HamlTree.Proofs.Resumption
import HamlTree.Proofs.SingleTree

/-!
# LineCoverage -- every line is accounted for once

A node stands for the line it is from and, if it is a filter, for the lines of its body. A `Ledger` is
an arena in which the nodes stand for lines one after the other without overlap, and together with
the lines that were `pulled` for every line up to a bound. Storing the node of the next line keeps it,
and so does moving on over lines that were pulled (`Ledger.append`, `Ledger.extend`).

A line was pulled if it was taken while an earlier one was being read, for a group that was open or
for a comma (`Continues`). The reading of a source is a chain of steps that take one line after the
other, so each line is taken by one step (`Reached.eq_of_taken`) and what that step did with it says
what became of it. Where white space is plain, every line that is read yields a node or opens a
filter, so the arena of an accepted template is a ledger up to the last line (`ledger_of_parse`).
-/

set_option autoImplicit false

namespace HamlTree

open Text Indentation

/-! ## Ledgers -/

/-- How many lines after its own a content stands for. -/
def Content.bodyLength : Content → Nat
  | .filter _ texts => texts.length
  | _ => 0

theorem Line.Yields.bodyLength_eq {stamp : Stamp} {content : Content}
    (yields : Yields stamp content) : content.bodyLength = 0 := by
  cases yields with
  | output puts => obtain ⟨_, _, rfl⟩ | ⟨_, _, _, _, rfl⟩ := puts <;> rfl
  | doctype | element | htmlComment | authorComment | silentScript => rfl

namespace Arena

/-- The last line that a node stands for. -/
def reach (arena : Arena) (id : NodeId) : Nat :=
  arena.lineno id + ((arena.content? id).map Content.bodyLength).getD 0

/-- The node stands for this line. -/
def Covers (arena : Arena) (id : Nat) (number : Nat) : Prop :=
  0 < id ∧ id < arena.size ∧ arena.lineno id ≤ number ∧ number ≤ arena.reach id

/-- Up to line `bound`, each line was pulled or one node stands for it. -/
structure Ledger (arena : Arena) (pulled : Nat → Prop) (bound : Nat) : Prop where
  nonempty : root < arena.size
  spaced : ∀ {earlier later : Nat}, earlier < later → later < arena.size →
    arena.reach earlier < arena.lineno later
  reach_le : ∀ {id : Nat}, id < arena.size → arena.reach id ≤ bound
  covered : ∀ {number : Nat}, 0 < number → number ≤ bound →
    (∃ id, arena.Covers id number) ∨ pulled number
  apart : ∀ {id number : Nat}, arena.Covers id number → ¬ pulled number

theorem reach_congr {arena after : Arena} {id : Nat} (same : after.node? id = arena.node? id) :
    after.reach id = arena.reach id := by
  rw [reach, lineno_congr same, content?_congr same, reach]

namespace Ledger

variable {arena after : Arena} {pulled : Nat → Prop} {bound : Nat}

theorem empty (pulled : Nat → Prop) : Arena.empty.Ledger pulled 0 where
  nonempty := Nat.one_pos
  spaced before stored := by
    have : Arena.empty.size = 1 := rfl
    omega
  reach_le {id} stored := by
    obtain rfl : id = 0 := Nat.lt_one_iff.1 stored
    exact Nat.le_refl 0
  covered positive le := absurd positive (by omega)
  apart covers := absurd (Nat.lt_one_iff.1 covers.2.1) (Nat.ne_of_gt covers.1)

/-- Moving nodes leaves them on their lines. -/
theorem congr (ledger : arena.Ledger pulled bound) (size : after.size = arena.size)
    (same : ∀ id, after.node? id = arena.node? id) : after.Ledger pulled bound := by
  have covers : ∀ id number, after.Covers id number ↔ arena.Covers id number := by
    intro id number
    rw [Covers, size, lineno_congr (same id), reach_congr (same id), Covers]
  refine ⟨size ▸ ledger.nonempty, fun before stored => ?_, fun {id} stored => ?_,
    fun positive le => ?_, fun stands => ?_⟩
  · rw [reach_congr (same _), lineno_congr (same _)]
    exact ledger.spaced before (size ▸ stored)
  · rw [reach_congr (same id)]
    exact ledger.reach_le (size ▸ stored)
  · simp only [covers]
    exact ledger.covered positive le
  · exact ledger.apart ((covers _ _).1 stands)

/-- The node of the next line, with the lines of its body if it is a filter. -/
theorem append (ledger : arena.Ledger pulled bound) (parent : Nat) {node : Node} {last : Nat}
    (next : node.stamp.lineno = bound + 1)
    (ends : bound + 1 + node.content.bodyLength = last)
    (free : ∀ number, bound < number → number ≤ last → ¬ pulled number) :
    (arena.append parent node).2.Ledger pulled last := by
  have size : (arena.append parent node).2.size = arena.size + 1 := size_append ..
  have same : ∀ {id : Nat}, id < arena.size →
      (arena.append parent node).2.node? id = arena.node? id :=
    fun stored => node?_append_of_lt stored parent node
  have newLine : (arena.append parent node).2.lineno arena.size = bound + 1 := by
    simpa [lineno] using next
  have newReach : (arena.append parent node).2.reach arena.size = last := by
    rw [reach, newLine, ← ends]
    simp [content?]
  have covers : ∀ {id number : Nat}, id < arena.size →
      ((arena.append parent node).2.Covers id number ↔ arena.Covers id number) := by
    intro id number stored
    rw [Covers, size, lineno_congr (same stored), reach_congr (same stored), Covers]
    constructor
    · rintro ⟨positive, -, stands⟩
      exact ⟨positive, stored, stands⟩
    · rintro ⟨positive, -, stands⟩
      exact ⟨positive, Nat.lt_succ_of_lt stored, stands⟩
  refine ⟨?_, fun {earlier later} before stored => ?_, fun {id} stored => ?_,
    fun {number} positive within => ?_, fun {id number} stands => ?_⟩
  · rw [size]
    exact Nat.lt_succ_of_lt ledger.nonempty
  · rw [size] at stored
    have earlierStored : earlier < arena.size := by omega
    rw [reach_congr (same earlierStored)]
    by_cases newest : later = arena.size
    · rw [newest, newLine]
      exact Nat.lt_succ_of_le (ledger.reach_le earlierStored)
    · have laterStored : later < arena.size := by omega
      rw [lineno_congr (same laterStored)]
      exact ledger.spaced before laterStored
  · rw [size] at stored
    by_cases newest : id = arena.size
    · rw [newest, newReach]
    · have oldStored : id < arena.size := by omega
      rw [reach_congr (same oldStored)]
      have := ledger.reach_le oldStored
      omega
  · by_cases old : number ≤ bound
    · refine (ledger.covered positive old).imp_left ?_
      rintro ⟨id, stands⟩
      exact ⟨id, (covers stands.2.1).2 stands⟩
    · refine .inl ⟨arena.size, ledger.nonempty, by omega, ?_, ?_⟩
      · rw [newLine]
        omega
      · rw [newReach]
        exact within
  · by_cases newest : id = arena.size
    · obtain ⟨-, -, first, within⟩ := stands
      rw [newest, newLine] at first
      rw [newest, newReach] at within
      exact free number (by omega) within
    · have stored := stands.2.1
      exact ledger.apart ((covers (by omega)).1 stands)

/-- Lines that were pulled. -/
theorem extend (ledger : arena.Ledger pulled bound) {last : Nat} (le : bound ≤ last)
    (taken : ∀ number, bound < number → number ≤ last → pulled number) :
    arena.Ledger pulled last where
  nonempty := ledger.nonempty
  spaced := ledger.spaced
  reach_le stored := Nat.le_trans (ledger.reach_le stored) le
  covered {number} positive within := by
    by_cases old : number ≤ bound
    · exact ledger.covered positive old
    · exact .inr (taken number (by omega) within)
  apart := ledger.apart

/-- No two nodes stand for the same line. -/
theorem unique (ledger : arena.Ledger pulled bound) {id other number : Nat}
    (stands : arena.Covers id number) (alsoStands : arena.Covers other number) : id = other := by
  obtain ⟨-, stored, first, last⟩ := stands
  obtain ⟨-, otherStored, otherFirst, otherLast⟩ := alsoStands
  rcases Nat.lt_trichotomy id other with older | same | younger
  · have := ledger.spaced older otherStored
    omega
  · exact same
  · have := ledger.spaced younger stored
    omega

end Ledger

end Arena

/-! ## Lines that are pulled -/

/-- While the text is read, line `number` is taken because the text, with the lines taken before,
asks for one. -/
def Pulled (text : List Char) (feed after : Feed) (number : Nat) : Prop :=
  ∃ sofar line before behind, Pulls text feed sofar before ∧ Asks sofar ∧
    before.next = some (line, behind) ∧ before.lineno < number ∧ number ≤ behind.lineno ∧
    behind.lineno ≤ after.lineno

theorem Pulls.lineno_le {text final : List Char} {feed after : Feed}
    (pulls : Pulls text feed final after) : feed.lineno ≤ after.lineno := by
  induction pulls with
  | done => exact Nat.le_refl _
  | line asks taken _ ih => exact Nat.le_trans (Feed.next_ahead taken).lineno_le ih

/-- Every line between the first and the last that were taken was asked for. -/
theorem Pulls.pulled {text final : List Char} {feed after : Feed}
    (pulls : Pulls text feed final after) {number : Nat} (later : feed.lineno < number)
    (within : number ≤ after.lineno) : Pulled text feed after number := by
  induction pulls with
  | done => omega
  | @line text line final feed middle after asks taken rest ih =>
      by_cases next : number ≤ middle.lineno
      · exact ⟨text, line, feed, middle, .done .., asks, taken, later, next, rest.lineno_le⟩
      · obtain ⟨sofar, further, before, behind, pulls, others⟩ := ih (by omega) within
        exact ⟨sofar, further, before, behind, .line asks taken pulls, others⟩

theorem Pulled.bounds {text : List Char} {feed after : Feed} {number : Nat}
    (pulled : Pulled text feed after number) : feed.lineno < number ∧ number ≤ after.lineno := by
  obtain ⟨sofar, line, before, behind, pulls, -, -, later, within, ends⟩ := pulled
  have := pulls.lineno_le
  omega

namespace Template

open FilterBlock

namespace State

/-- The next step takes line `number` to go on with the line that it reads. -/
def Continues (state : State) (number : Nat) : Prop :=
  ∃ line ready entered, state.opened = some (line, ready) ∧ ready.filter.isOpen = false ∧
    (ready.started line).follow (line.filter (· != '\n')) = .ok entered ∧
    Pulled (split (line.filter (· != '\n'))).2 entered.feed
      (entered.textFeed (split (line.filter (· != '\n'))).2) number

variable {source line physical : List Char} {state next ready entered after : State} {feed : Feed}

theorem feedAfter_eq (opened : state.opened = some (line, ready))
    (closed : ready.filter.isOpen = false)
    (follows : (ready.started line).follow (line.filter (· != '\n')) = .ok entered) :
    state.feedAfter = entered.textFeed (split (line.filter (· != '\n'))).2 := by
  rw [feedAfter, opened]
  dsimp only
  rw [closed, if_neg Bool.false_ne_true, lineFeed, follows]

theorem Continues.bounds {number : Nat} (continues : state.Continues number) :
    state.feed.lineno < number ∧ number ≤ state.feedAfter.lineno := by
  obtain ⟨line, ready, entered, opened, closed, follows, pulled⟩ := continues
  obtain ⟨later, within⟩ := pulled.bounds
  obtain ⟨used, -, -, moved⟩ := Feed.take_skip (opened_feed opened)
  have same : entered.feed = ready.feed := (follow_cases follows).2.frame.1
  have number : ready.feed.lineno = state.feed.lineno + used := by rw [moved]; rfl
  rw [feedAfter_eq opened closed follows]
  rw [same] at later
  exact ⟨by omega, within⟩

theorem textFeed_pulls (state : State) (text : List Char) :
    ∃ final, Pulls text state.feed final (state.textFeed text) := by
  unfold textFeed
  split
  · exact ⟨text, .done ..⟩
  · exact Line.read_pulls ..

/-- A step that reads a line continues it on the lines that it takes beyond that line. -/
theorem Reads.continues_iff (reads : Reads source state line physical feed ready entered)
    {number : Nat} : state.Continues number ↔
      feed.lineno < number ∧ number ≤ state.feedAfter.lineno := by
  constructor
  · intro continues
    have within := continues.bounds.2
    obtain ⟨_, _, otherEntered, opened, -, follows, pulled⟩ := continues
    cases reads.opened.symm.trans opened
    have same : otherEntered.feed = ready.feed := (follow_cases follows).2.frame.1
    have later := pulled.bounds.1
    rw [same, reads.readied.frame.1] at later
    exact ⟨later, within⟩
  · rintro ⟨later, within⟩
    obtain ⟨final, pulls⟩ := entered.textFeed_pulls (split (line.filter (· != '\n'))).2
    rw [feedAfter_eq reads.opened reads.ready_closed reads.follows] at within
    rw [← reads.feed_eq] at later
    exact ⟨line, ready, entered, reads.opened, reads.ready_closed, reads.follows,
      pulls.pulled later within⟩

/-- One step of a reading. -/
def Steps (state next : State) : Prop :=
  state.feed.hasNext = true ∧ state.step = .ok next

/-- What comes later has taken the lines of the next step. -/
theorem feedAfter_le {last : State} (chain : Relation.ReflTransGen Steps state last) :
    state = last ∨ state.feedAfter.lineno ≤ last.feed.lineno := by
  induction chain with
  | refl => exact .inl rfl
  | @tail middle last first steps ih =>
      have moved := (step_skip steps.2 steps.1).1.lineno_le
      rcases ih with rfl | before
      · exact .inr (Nat.le_of_eq (congrArg Feed.lineno (step_feed steps.2 steps.1)).symm)
      · exact .inr (Nat.le_trans before moved)

/-! ## The tree as a ledger while it is read -/

theorem ledger_addBlanks {pulled : Nat → Prop} {bound count last : Nat}
    (ledger : state.arena.Ledger pulled bound) (ends : bound + count = last)
    (free : ∀ number, bound < number → number ≤ last → ¬ pulled number) :
    (state.addBlanks (List.range' (bound + 1) count)).arena.Ledger pulled last := by
  induction count generalizing state bound with
  | zero =>
      subst ends
      exact ledger
  | succ count ih =>
      rw [List.range'_succ, addBlanks_cons]
      have next : (state.addNode ⟨state.stampAt (bound + 1), .blank⟩).arena.Ledger pulled
          (bound + 1) :=
        ledger.append state.current rfl rfl fun number later within =>
          free number later (by omega)
      exact ih next (by omega) fun number later => free number (by omega)

theorem ledger_addFilter {pulled : Nat → Prop} {draft : Draft} {bound last : Nat}
    (ledger : state.arena.Ledger pulled bound) (next : draft.stamp.lineno = bound + 1)
    (body : draft.stamp.lineno + draft.texts.length = last)
    (free : ∀ number, bound < number → number ≤ last → ¬ pulled number) :
    (state.addFilter draft.finish last).arena.Ledger pulled last := by
  have lengths : draft.finish.texts.length + draft.finish.trailingBlanks = draft.texts.length :=
    Nat.add_sub_cancel' (List.rdropWhile_prefix ..).length_le
  have node : (state.addNode draft.finish.node).arena.Ledger pulled
      (bound + 1 + draft.finish.texts.length) :=
    ledger.append state.current next rfl fun number later within => free number later (by omega)
  have first : last + 1 - draft.finish.trailingBlanks =
      bound + 1 + draft.finish.texts.length + 1 := by omega
  rw [addFilter, first]
  exact ledger_addBlanks node (by omega) fun number later => free number (by omega)

/-- Up to the last line taken, or else up to the filter being read, the tree is a ledger. No line of
that filter was pulled. -/
structure Accounted (pulled : Nat → Prop) (state : State) : Prop where
  closed : state.filter.draft = none → state.arena.Ledger pulled state.feed.lineno
  opened : ∀ draft, state.filter.draft = some draft → ∃ bound,
    state.arena.Ledger pulled bound ∧ draft.stamp.lineno = bound + 1 ∧
      ∀ number, bound < number → number ≤ state.feed.lineno → ¬ pulled number

namespace Accounted

variable {pulled : Nat → Prop}

theorem ofSource (pulled : Nat → Prop) (source : List Char) (filename : Option String) :
    Accounted pulled (State.ofSource source filename) where
  closed _ := .empty pulled
  opened draft found := by cases found

/-- When a line is read, the lines before it are accounted for. -/
theorem reads (accounted : Accounted pulled state) (aligned : state.Aligned) (dated : state.Dated)
    (reads : Reads source state line physical feed ready entered) :
    entered.arena.Ledger pulled state.feed.lineno := by
  obtain ⟨sameSize, sameNode⟩ :=
    reads.followed.nodes (reads.started_aligned aligned).container
  have before : ready.arena.Ledger pulled state.feed.lineno := by
    cases reads.readied with
    | idle closed => exact accounted.closed closed
    | @closing draft found outside single =>
        obtain ⟨bound, ledger, next, free⟩ := accounted.opened draft found
        have number : feed.lineno - 1 = state.feed.lineno := by
          rw [reads.taken.lineno_eq, single]
          rfl
        rw [number]
        exact ledger_addFilter ledger next (dated.opened draft found).2 free
  exact before.congr sameSize sameNode

/-- A line that was read stands for itself and for the lines folded into it, and those behind them were
pulled. -/
theorem told (aligned : state.Aligned) (plain : Plain source)
    (reads : Reads source state line physical feed ready entered)
    (told : Told entered (split (line.filter (· != '\n'))).2 after)
    (before : entered.arena.Ledger pulled state.feed.lineno)
    (free : ∀ number, state.feed.lineno < number → number ≤ feed.lineno → ¬ pulled number)
    (taken : ∀ number, feed.lineno < number → number ≤ after.feed.lineno → pulled number) :
    Accounted pulled
      (after.addBlanks (List.range' (state.feed.lineno + 2) (line.count '\n'))) := by
  have start := reads.taken.lineno_eq
  have number := reads.lineno_eq
  have ahead : feed.Ahead after.feed := reads.feed_eq ▸ told.ahead
  rw [addBlanks_frame]
  have complete : after.arena.Ledger pulled (state.feed.lineno + 1) →
      after.filter.draft = none → Accounted pulled { after with
        arena := (after.addBlanks (List.range' (state.feed.lineno + 2) (line.count '\n'))).arena } := by
    intro ledger closed
    have blanks := ledger_addBlanks ledger start.symm fun number later => free number (by omega)
    refine ⟨fun _ => blanks.extend ahead.lineno_le taken, fun draft found => ?_⟩
    cases closed.symm.trans found
  have added : ∀ content, content.bodyLength = 0 → ∀ filename,
      (entered.arena.append entered.current
        ⟨⟨filename, entered.lineno⟩, content⟩).2.Ledger pulled (state.feed.lineno + 1) := by
    intro content bodyless filename
    exact before.append entered.current number (by rw [bodyless])
      fun number later within => free number later (by omega)
  cases told with
  | blank gone => exact complete (added _ rfl _) reads.closed
  | remark solid inside => exact complete (added _ rfl _) reads.closed
  | node solid outside moved filled reading =>
      have yields := Line.read_yields (congrArg Prod.fst reading)
      exact complete (added _ yields.bodyLength_eq _) reads.closed
  | filter outside named word =>
      have single := (Placed.opens aligned reads outside named word).1
      rw [single]
      refine ⟨fun none => ?_, fun draft found => ?_⟩
      · cases none
      · cases found
        refine ⟨_, before, number, fun number later within => free number later ?_⟩
        rw [← reads.feed_eq]
        exact within
  | nothing solid outside moved void =>
      exact absurd void (reads.taken.trimStart_ne_nil plain solid)

theorem step (accounted : Accounted pulled state) (aligned : state.Aligned) (dated : state.Dated)
    (plain : Plain source) (stepped : state.Stepped source next)
    (moved : next.feed = state.feedAfter)
    (exactly : ∀ number, state.feed.lineno < number → number ≤ next.feed.lineno →
      (pulled number ↔ state.Continues number)) : Accounted pulled next := by
  cases stepped with
  | @collect draft text line physical feed filter opened found outside taken single grown =>
      refine ⟨fun none => ?_, fun now same => ?_⟩
      · cases grown.symm.trans none
      · cases grown.symm.trans same
        obtain ⟨bound, ledger, next, free⟩ := accounted.opened draft found
        refine ⟨bound, ledger, next, fun number later within pulls => ?_⟩
        by_cases old : number ≤ state.feed.lineno
        · exact free number later old pulls
        · -- a step that adds to the filter reads no line
          obtain ⟨_, _, _, alsoOpened, closed, -⟩ := (exactly number (by omega) within).1 pulls
          cases opened.symm.trans alsoOpened
          simp [Collector.isOpen, grown] at closed
  | @read line physical feed ready entered after reads told =>
      have start := reads.taken.lineno_eq
      have reaches : feed.lineno ≤ after.feed.lineno := (reads.feed_eq ▸ told.ahead).lineno_le
      have kept : (after.addBlanks (List.range' (state.feed.lineno + 2)
          (line.count '\n'))).feed = after.feed := by
        rw [addBlanks_frame]
      rw [kept] at moved exactly
      refine Accounted.told aligned plain reads told (accounted.reads aligned dated reads) ?_ ?_
      · intro number later within pulls
        have continues := (exactly number later (Nat.le_trans within reaches)).1 pulls
        have := (reads.continues_iff.1 continues).1
        omega
      · intro number later within
        refine (exactly number (by omega) within).2 (reads.continues_iff.2 ⟨later, ?_⟩)
        rw [← moved]
        exact within

end Accounted

end State

/-! ## The chain of steps -/

namespace Reached

variable {source : List Char} {filename : Option String} {state other : State}

/-- Of two states that the reading comes by, one comes after the other. -/
theorem chain (reached : Reached source filename state) (alsoReached : Reached source filename other) :
    Relation.ReflTransGen State.Steps state other ∨
      Relation.ReflTransGen State.Steps other state := by
  have fromStart : ∀ {last : State}, Reached source filename last →
      Relation.ReflTransGen State.Steps (State.ofSource source filename) last := by
    intro last reached
    induction reached with
    | start => exact .refl
    | step _ more steps ih => exact ih.tail ⟨more, steps⟩
  refine Relation.ReflTransGen.total_of_right_unique ?_ (fromStart reached) (fromStart alsoReached)
  intro before first second steps alsoSteps
  exact Except.ok.inj (steps.2.symm.trans alsoSteps.2)

/-- A line is taken by one step. -/
theorem eq_of_taken {number : Nat} (reached : Reached source filename state)
    (alsoReached : Reached source filename other) (later : state.feed.lineno < number)
    (within : number ≤ state.feedAfter.lineno) (alsoLater : other.feed.lineno < number)
    (alsoWithin : number ≤ other.feedAfter.lineno) : state = other := by
  rcases reached.chain alsoReached with first | second
  · rcases State.feedAfter_le first with same | before
    · exact same
    · omega
  · rcases State.feedAfter_le second with same | before
    · exact same.symm
    · omega

end Reached

/-- Line `number` was taken to go on with an earlier line: for a group that was open, or for a
comma. -/
def Continued (source : List Char) (filename : Option String) (number : Nat) : Prop :=
  ∃ state, Reached source filename state ∧ state.Continues number

variable {source : List Char} {filename : Option String} {arena : Arena}

/-- Between any two lines of a plain source. -/
theorem Reached.accounted {state : State} (reached : Reached source filename state)
    (plain : Plain source) : State.Accounted (Continued source filename) state := by
  induction reached with
  | start => exact .ofSource _ source filename
  | @step state next reached more steps ih =>
      have moved := State.step_feed steps more
      refine ih.step reached.aligned reached.dated plain
        (State.step_stepped reached.placed more steps) moved fun number later within => ?_
      constructor
      · rintro ⟨other, alsoReached, continues⟩
        obtain ⟨alsoLater, alsoWithin⟩ := continues.bounds
        rw [reached.eq_of_taken alsoReached later (moved ▸ within) alsoLater alsoWithin]
        exact continues
      · exact fun continues => ⟨state, reached, continues⟩

/-- In an accepted template with plain white space each line was pulled or one node stands for it. -/
theorem ledger_of_parse (plain : Plain source) (accepted : parse source filename = .ok arena) :
    arena.Ledger (Continued source filename) (lines source).length := by
  obtain ⟨last, -, reached, exhausted, rfl⟩ := parse_cases accepted
  rw [← reached.lineno_of_exhausted exhausted]
  have accounted := reached.accounted plain
  rcases State.flushed_cases last with ⟨closed, same⟩ | ⟨draft, found, same⟩
  · rw [same]
    exact accounted.closed closed
  · rw [same]
    obtain ⟨bound, ledger, next, free⟩ := accounted.opened draft found
    exact State.ledger_addFilter ledger next (reached.dated.opened draft found).2 free

/-- Exactly one node other than the root is from this line. -/
def HasNode (arena : Arena) (number : Nat) : Prop :=
  ∃! id : Nat, id ≠ Arena.root ∧ id < arena.size ∧ arena.lineno id = number

/-- The line is in the body of exactly one filter. -/
def InBody (arena : Arena) (number : Nat) : Prop :=
  ∃! id : Nat, ∃ name texts index, arena.content? id = some (.filter name texts) ∧ 1 ≤ index ∧
    index ≤ texts.length ∧ number = arena.lineno id + index

/-- A node stands for the line it is from. -/
theorem covers_of_lineno {id number : Nat} (other : id ≠ Arena.root) (stored : id < arena.size)
    (same : arena.lineno id = number) : arena.Covers id number :=
  ⟨Nat.pos_of_ne_zero other, stored, Nat.le_of_eq same, same ▸ Nat.le_add_right ..⟩

/-- A filter stands for the lines of its body. -/
theorem covers_of_body (rooted : arena.Rooted) {id index : Nat} {name : String}
    {texts : List String} (found : arena.content? id = some (.filter name texts))
    (within : index ≤ texts.length) : arena.Covers id (arena.lineno id + index) := by
  refine ⟨Nat.pos_of_ne_zero ?_, Arena.lt_size_of_content? found, Nat.le_add_right .., ?_⟩
  · rintro rfl
    cases rooted.content_root.symm.trans found
  · rw [Arena.reach, found]
    exact Nat.add_le_add_left within _

/-- A node stands for no other lines. -/
theorem lineno_or_body {id number : Nat} (stands : arena.Covers id number) :
    arena.lineno id = number ∨ ∃ name texts index, arena.content? id = some (.filter name texts) ∧
      1 ≤ index ∧ index ≤ texts.length ∧ number = arena.lineno id + index := by
  obtain ⟨-, stored, first, last⟩ := stands
  by_cases same : arena.lineno id = number
  · exact .inl same
  · obtain ⟨content, found⟩ := Arena.exists_content? stored
    rw [Arena.reach, found] at last
    simp only [Option.map_some, Option.getD_some] at last
    cases content with
    | filter name texts =>
        refine .inr ⟨name, texts, number - arena.lineno id, found, by omega, ?_, by omega⟩
        rw [Content.bodyLength] at last
        omega
    | _ => exact absurd (Nat.le_antisymm first last) same

/-- In an accepted template with plain white space every line has a node of its own, or is in the body
of a filter, or was taken to go on with an earlier line, and never two of these. -/
theorem parse_accounts_for_lines (plain : Plain source) (accepted : parse source filename = .ok arena) :
    (∀ id other : Nat, id < arena.size → other < arena.size →
        arena.lineno id = arena.lineno other → id = other) ∧
      ∀ number, 1 ≤ number → number ≤ (lines source).length →
        (HasNode arena number ∧ ¬ InBody arena number ∧ ¬ Continued source filename number) ∨
          (¬ HasNode arena number ∧ InBody arena number ∧ ¬ Continued source filename number) ∨
          (¬ HasNode arena number ∧ ¬ InBody arena number ∧ Continued source filename number) := by
  have ledger := ledger_of_parse plain accepted
  have rooted := rooted_of_parse accepted
  constructor
  · intro id other stored otherStored same
    rcases Nat.lt_trichotomy id other with older | equal | younger
    · have := Nat.lt_of_le_of_lt (Nat.le_add_right ..) (ledger.spaced older otherStored)
      omega
    · exact equal
    · have := Nat.lt_of_le_of_lt (Nat.le_add_right ..) (ledger.spaced younger stored)
      omega
  intro number positive within
  by_cases continued : Continued source filename number
  · -- no node stands for a line that was pulled
    refine .inr (.inr ⟨?_, ?_, continued⟩)
    · rintro ⟨id, ⟨other, stored, same⟩, -⟩
      exact ledger.apart (covers_of_lineno other stored same) continued
    · rintro ⟨id, ⟨name, texts, index, found, -, inside, rfl⟩, -⟩
      exact ledger.apart (covers_of_body rooted found inside) continued
  obtain ⟨id, stands⟩ := (ledger.covered positive within).resolve_right continued
  rcases lineno_or_body stands with same | ⟨name, texts, index, found, least, inside, equal⟩
  · refine .inl ⟨⟨id, ⟨Nat.ne_of_gt stands.1, stands.2.1, same⟩, ?_⟩, ?_, continued⟩
    · rintro other ⟨notRoot, stored, also⟩
      exact ledger.unique (covers_of_lineno notRoot stored also) stands
    · rintro ⟨other, ⟨name, texts, index, found, least, inside, rfl⟩, -⟩
      obtain rfl := ledger.unique (covers_of_body rooted found inside) stands
      omega
  · refine .inr (.inl ⟨?_, ⟨id, ⟨name, texts, index, found, least, inside, equal⟩, ?_⟩, continued⟩)
    · rintro ⟨other, ⟨notRoot, stored, also⟩, -⟩
      obtain rfl := ledger.unique (covers_of_lineno notRoot stored also) stands
      omega
    · rintro other ⟨otherName, otherTexts, otherIndex, otherFound, -, otherInside, rfl⟩
      exact ledger.unique (covers_of_body rooted otherFound otherInside) stands

/-- A folded line, a group over two lines, and a filter with a blank line in its body and one after
it. No node stands for line 4, so it was pulled. -/
theorem parse_accounts_for_lines_pulled :
    Plain "z |\n  w |\n%p(a\n  b)\n:css\n  x\n\n  y\n\n".toList ∧
      ∃ arena, parse "z |\n  w |\n%p(a\n  b)\n:css\n  x\n\n  y\n\n".toList = .ok arena ∧
        (List.range arena.size).map (fun id => (arena.lineno id, arena.reach id)) =
          [(0, 0), (1, 1), (2, 2), (3, 3), (5, 8), (9, 9)] ∧
        ¬ HasNode arena 4 ∧ ¬ InBody arena 4 ∧
        Continued "z |\n  w |\n%p(a\n  b)\n:css\n  x\n\n  y\n\n".toList none 4 := by
  have plain : Plain "z |\n  w |\n%p(a\n  b)\n:css\n  x\n\n  y\n\n".toList := by decide +kernel
  have within : 4 ≤ (lines "z |\n  w |\n%p(a\n  b)\n:css\n  x\n\n  y\n\n".toList).length := by
    decide +kernel
  have facts : (parse "z |\n  w |\n%p(a\n  b)\n:css\n  x\n\n  y\n\n".toList).toOption.map (fun arena =>
      (List.range arena.size).map fun id => (arena.lineno id, arena.reach id)) =
      some [(0, 0), (1, 1), (2, 2), (3, 3), (5, 8), (9, 9)] := by
    decide +kernel
  refine ⟨plain, ?_⟩
  cases accepted : parse "z |\n  w |\n%p(a\n  b)\n:css\n  x\n\n  y\n\n".toList with
  | error fault => rw [accepted] at facts; cases facts
  | ok arena =>
      rw [accepted] at facts
      have table := Option.some.inj facts
      have uncovered : ∀ id, ¬ arena.Covers id 4 := by
        rintro id ⟨-, stored, first, last⟩
        have listed : (arena.lineno id, arena.reach id) ∈
            [(0, 0), (1, 1), (2, 2), (3, 3), (5, 8), (9, 9)] :=
          table ▸ List.mem_map_of_mem (List.mem_range.2 stored)
        simp only [List.mem_cons, Prod.mk.injEq, List.not_mem_nil, or_false] at listed
        omega
      obtain ⟨⟨id, ⟨other, stored, same⟩, -⟩, -⟩ | ⟨-, ⟨id, inside, -⟩, -⟩ | pulled :=
        (parse_accounts_for_lines plain accepted).2 4 (by decide) within
      · exact absurd (covers_of_lineno other stored same) (uncovered id)
      · obtain ⟨name, texts, index, found, -, least, same⟩ := inside
        have stands := covers_of_body (rooted_of_parse accepted) found least
        exact absurd (same ▸ stands) (uncovered id)
      · exact ⟨arena, rfl, table, pulled⟩

end Template

end HamlTree
