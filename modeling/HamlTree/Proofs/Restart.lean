import HamlTree.Proofs.Resumption

/-!
# Restart -- a line on the outermost level starts afresh

A line with text and no indentation ends the filter being read, if one is, and closes every level
that is open, comments included (`State.opened_flush`, `State.follow_flush`). So it is read as the
first line of a template would be, onto the tree that the template so far would have had if it had
ended before the line. `State.restarts` says so with the relation of `Resumption`.
-/

set_option autoImplicit false

namespace HamlTree

open Text Indentation

/-! ## Closing all levels -/

namespace Indentation

/-- A line on the outermost level closes all others. -/
theorem closeAbove_zero {current : Nat} {enclosing : List Nat}
    (steep : (current :: enclosing).Pairwise (· > ·))
    (base : (current :: enclosing).getLast? = some 0) :
    closeAbove 0 current enclosing = (0, [], enclosing.length) := by
  induction enclosing generalizing current with
  | nil =>
      have : current = 0 := by simpa using base
      rw [closeAbove, this]
      rfl
  | cons outer others ih =>
      have above := (List.pairwise_cons.1 steep).1 outer List.mem_cons_self
      rw [List.getLast?_cons_cons] at base
      rw [closeAbove, if_pos (by omega), ih (List.pairwise_cons.1 steep).2 base]
      rfl

/-- On the outermost level nothing else is open. -/
theorem Tracker.Sound.eq_empty {tracker : Tracker} (sound : tracker.Sound)
    (flush : tracker.current = 0) : tracker = {} := by
  obtain ⟨steep, base, comment⟩ := sound
  rcases tracker with ⟨current, enclosing, commentLevel⟩
  obtain rfl : current = 0 := flush
  cases enclosing with
  | cons outer others =>
      have above := (List.pairwise_cons.1 steep).1 outer List.mem_cons_self
      exact absurd above (Nat.not_lt_zero outer)
  | nil =>
      cases commentLevel with
      | none => rfl
      | some level => cases comment rfl

end Indentation

/-! ## Filters in their place -/

namespace FilterBlock.Collector

/-- Where no filter is being read nothing is left of the last one, and a body is indented. -/
structure Fit (collector : Collector) : Prop where
  idle : collector.draft = none → collector = {}
  indented : ∀ body, collector.bodyIndent = some body → 0 < body

namespace Fit

variable {collector : Collector} {draft : Draft} {line : List Char}

theorem empty : Fit {} where
  idle _ := rfl
  indented _ found := by cases found

theorem start (name : String) (stamp : Stamp) : (Collector.start name stamp).Fit where
  idle closed := by cases closed
  indented _ found := by cases found

theorem pushText (found : collector.draft = some draft)
    (indented : ∀ body, collector.bodyIndent = some body → 0 < body) (text : List Char) :
    (collector.pushText text).Fit where
  idle closed := by cases (pushText_draft found text).symm.trans closed
  indented := indented

theorem append (fit : collector.Fit) (found : collector.draft = some draft) (line : List Char)
    (level : Nat) : (collector.append line level).1.Fit := by
  unfold Collector.append
  dsimp only
  split
  · exact pushText found fit.indented []
  split
  · split
    · rw [close_of_draft found]
      exact .empty
    · exact pushText found fit.indented _
  · split
    · rename_i deeper
      have kept : { collector with bodyIndent := some (split line).1.length }.draft = some draft :=
        found
      refine pushText kept (fun body same => ?_) _
      cases same
      exact Nat.zero_lt_of_lt deeper
    · rw [close_of_draft found]
      exact .empty

/-- A line with text and no indentation ends a filter. -/
theorem append_flush (fit : collector.Fit) (found : collector.draft = some draft)
    (flush : (split line).1 = []) (solid : (split line).2 ≠ []) (level : Nat) :
    collector.append line level = ({}, some draft.finish) := by
  unfold Collector.append
  dsimp only
  rw [if_neg (by simpa using solid), flush]
  cases fixed : collector.bodyIndent with
  | none => exact close_of_draft found
  | some body =>
      dsimp only
      rw [List.length_nil, if_pos (fit.indented body fixed)]
      exact close_of_draft found

end Fit

end FilterBlock.Collector

namespace Template

open FilterBlock

namespace State

variable {state : State} {line : List Char}

theorem opened_fit {ready : State} (fit : state.filter.Fit)
    (opened : state.opened = some (line, ready)) : ready.filter.Fit := by
  obtain ⟨feed, -, ⟨-, rfl⟩ | ⟨filtering, cases⟩⟩ := opened_cases opened
  · exact fit
  · simp only [inFilter, Bool.and_eq_true] at filtering
    obtain ⟨draft, found⟩ := Option.isSome_iff_exists.1 filtering.2
    have appended := fit.append found line state.indent.current
    obtain ⟨-, rfl⟩ | ⟨block, -, rfl⟩ := cases
    · exact appended
    · rw [addFilter_frame]
      exact appended

theorem step_fit {next : State} (fit : state.filter.Fit) (more : state.feed.hasNext = true)
    (steps : state.step = .ok next) : next.filter.Fit := by
  obtain ⟨line, ready, opened, ⟨-, rfl⟩ | ⟨-, reads⟩⟩ := step_cases steps more
  · exact opened_fit fit opened
  · obtain ⟨entered, after, follows, text, rfl⟩ := readLogical_cases reads
    have same : entered.filter = ready.filter := (follow_cases follows).2.frame.2.1
    have kept : entered.filter.Fit := same ▸ opened_fit fit opened
    rw [addBlanks_frame]
    cases readText_cases text with
    | filter outside named word => exact .start ..
    | blank _ | remark _ _ | node _ _ _ _ | nothing _ _ _ _ => exact kept

/-! ## A line on the outermost level -/

/-- What is added for a finished filter has to do with no line still to come. -/
theorem arena_addFilter_note (feed : Feed) (filter : Collector) (lineno : Nat)
    (same : feed.filename = state.feed.filename) (block : Finished) (last : Nat) :
    ({ state with feed, filter, lineno }.addFilter block last).arena =
      (state.addFilter block last).arena := by
  have blanks : ∀ (linenos : List Nat) (state : State), feed.filename = state.feed.filename →
      ({ state with feed, filter, lineno }.addBlanks linenos).arena =
        (state.addBlanks linenos).arena := by
    intro linenos
    induction linenos with
    | nil => exact fun _ _ => rfl
    | cons first rest ih =>
        intro state same
        rw [addBlanks_cons, addBlanks_cons, stampAt, stampAt, same]
        exact ih (state.addNode _) same
  exact blanks _ (state.addNode block.node) same

/-- A line with text and no indentation finds the tree as the end of the template would. -/
theorem opened_flush {source : List Char} {rest : List (List Char)} (placed : state.Placed source)
    (fit : state.filter.Fit) (pending : state.feed.pending = line :: rest)
    (plain : isPiped line = false) (flush : (split line).1 = []) (solid : (split line).2 ≠ []) :
    ∃ lineno, state.opened = some (line, { state with
      arena := state.flushed.arena, feed := state.feed.skip 1, filter := {}, lineno }) := by
  have taken : ∀ raw, state.feed.take raw = some (line, state.feed.skip 1) := by
    intro raw
    cases raw <;> simp [Feed.take, Feed.next, Feed.nextRaw, Feed.skip, pending, plain]
  rw [opened, taken]
  rcases flushed_cases state with ⟨closed, same⟩ | ⟨draft, found, same⟩
  · have idle : state.inFilter = false := by simp [inFilter, Collector.isOpen, closed]
    refine ⟨state.lineno, ?_⟩
    dsimp only
    rw [idle, same, ← fit.idle closed]
    rfl
  · have busy : state.inFilter = true := by
      simp [inFilter, Collector.isOpen, found, (placed.filter draft found).1]
    have grown := @arena_addFilter_note { state with filter := {} } (state.feed.skip 1) {}
      (state.feed.lineno + 1) rfl draft.finish state.feed.lineno
    refine ⟨state.feed.lineno + 1, ?_⟩
    dsimp only
    rw [busy, if_pos rfl, collect]
    dsimp only
    rw [fit.append_flush found flush solid, same, ← grown]
    dsimp only
    rw [addFilter_frame]
    rfl

theorem follow_flush (aligned : state.Aligned) (flush : (split line).1 = [])
    (solid : (split line).2 ≠ []) :
    state.follow line = .ok { state with indent := {}, current := Arena.root, stack := [] } := by
  obtain ⟨stack, current⟩ := aligned.leaveAll {}
  have closed : leaveMany state.indent.depth { state with indent := {} } =
      { state with indent := {}, current := Arena.root, stack := [] } := by
    rw [leaveMany_frame, stack, current]
  have tracks : state.indent.track 0 =
      ({}, .ok (List.replicate state.indent.depth (.leave 0))) := by
    by_cases nested : 0 < state.indent.current
    · have leaves : state.indent.leave 0 =
          ({}, .ok (List.replicate state.indent.depth (.leave 0))) := by
        rw [Tracker.leave, closeAbove_zero aligned.sound.steep aligned.sound.base]
        rfl
      unfold Tracker.track
      rw [if_neg (Nat.not_lt_zero _), if_pos nested]
      cases state.indent.commentLevel with
      | none => exact leaves
      | some level => exact leaves
    · have flat := aligned.sound.eq_empty (Nat.eq_zero_of_not_pos nested)
      rw [flat]
      rfl
  have processes : state.indent.process line =
      ({}, .ok ⟨(split line).2, [], List.replicate state.indent.depth (.leave 0)⟩) := by
    unfold Tracker.process
    dsimp only
    rw [flush, if_neg (by simp), if_neg (by simpa using solid), List.length_nil, tracks]
  rw [follow, processes]
  dsimp only
  rw [applyAll_leaves, closed]

/-- The first line of a template has no indentation, since there is nothing that it could go below. -/
theorem split_of_first {source : List Char} {filename : Option String} {next : State}
    {rest : List (List Char)} (steps : (State.ofSource source filename).step = .ok next)
    (pending : (State.ofSource source filename).feed.pending = line :: rest)
    (plain : isPiped line = false) (visible : trimStart line ≠ []) :
    (split line).1 = [] ∧ (split line).2 ≠ [] := by
  have solid : (split line).2 ≠ [] := by
    intro gone
    refine visible (List.dropWhile_eq_nil_iff.2 fun c member => isSpace_of_isIndent ?_)
    exact List.dropWhile_eq_nil_iff.1 gone c member
  refine ⟨List.eq_nil_of_length_eq_zero ?_, solid⟩
  have more : (State.ofSource source filename).feed.hasNext = true := by
    simp [Feed.hasNext, pending]
  have placed := Placed.ofSource source filename
  have unfolded := (placed.position.unfolded pending).1
  cases step_stepped placed more steps with
  | collect opened found outside taken single grown => cases found
  | @read first physical feed ready entered after reads told =>
      obtain rfl : line = first := by
        have took := opened_feed reads.opened
        obtain ⟨other, others, same, ⟨-, rfl, -⟩ | ⟨piped, -⟩⟩ := Feed.next_eq took
        · exact (List.cons.inj (pending.symm.trans same)).1
        · cases (List.cons.inj (pending.symm.trans same)).1
          cases plain.symm.trans piped
      have followed := reads.followed
      cases reads.readied with
      | closing found outside single => cases found
      | idle closed =>
          rw [unfolded] at followed
          cases followed with
          | stay why =>
              rcases why with gone | same | ⟨comment, found, -⟩
              · exact absurd gone solid
              · exact same
              · cases found
          | enter solid higher outside enters =>
              have begun := reads.started_aligned (.ofSource source filename)
              obtain ⟨target, youngest, -⟩ := enter_cases enters begun.container
              cases youngest
          | leave solid lower outside closes => exact absurd lower (Nat.not_lt_zero _)

/-- The first line of a template gives its root a child that is not blank, or will when the filter that
it opens is over. -/
theorem anchored_of_first {base : Arena} {entered after : State} (aligned : entered.Aligned)
    (atRoot : entered.current = Arena.root) (visible : trimStart line ≠ [])
    (told : Told entered line after) (linenos : List Nat) :
    Anchored base (after.addBlanks linenos) := by
  have outside : entered.inAuthorComment = false := by
    rw [inAuthorComment, atRoot, Arena.isAuthorComment, aligned.rooted.content_root]
    rfl
  cases told with
  | blank gone => exact absurd (congrArg trimStart gone) visible
  | remark solid inside => cases outside.symm.trans inside
  | @node content feed solid _ moved filled reading =>
      have topped : ∀ node : Node, node.content.isBlank = false →
          (entered.arena.append entered.current node).2.Topped := by
        have container := aligned.container
        rw [atRoot] at container ⊢
        exact fun node => Arena.topped_append container
      have noted := aligned.growth (.note entered feed entered.filter entered.lineno)
      exact .inr (.inl (topped_moves (topped _ filled) (noted.addNode _) (grows_addBlanks ..).moves))
  | filter _ named word =>
      rw [addBlanks_frame]
      exact .inr (.inr ⟨⟨_, rfl⟩, atRoot⟩)
  | nothing solid _ moved void => exact absurd void visible

/-- The state when a line on the outermost level has been taken, and the state when its indentation
has been followed. Of what the lines before it left open, nothing is. -/
structure Restarted (state : State) (line : List Char) (ready entered : State) : Prop where
  opened : state.opened = some (line, ready)
  closed : ready.filter.isOpen = false
  moved : ready.feed = state.feed.skip 1
  follows : (ready.started line).follow (line.filter (· != '\n')) = .ok entered
  aligned : entered.Aligned
  feed : entered.feed = state.feed.skip 1
  arena : entered.arena = state.flushed.arena
  current : entered.current = Arena.root
  stack : entered.stack = []
  indent : entered.indent = {}
  filter : entered.filter = {}

theorem exists_restarted {source : List Char} {rest : List (List Char)} (aligned : state.Aligned)
    (placed : state.Placed source) (fit : state.filter.Fit)
    (pending : state.feed.pending = line :: rest) (plain : isPiped line = false)
    (flush : (split line).1 = []) (solid : (split line).2 ≠ []) :
    ∃ ready entered, state.Restarted line ready entered := by
  obtain ⟨lineno, opened⟩ := opened_flush placed fit pending plain flush solid
  have begun := (aligned.grows (opened_grows opened)).grows (grows_started _ line)
  have follows := follow_flush begun flush solid
  have aligned := begun.follow (follow_cases follows).2
  refine ⟨_, _, opened, rfl, rfl, ?_, aligned, rfl, rfl, rfl, rfl, rfl, rfl⟩
  rw [(placed.position.unfolded pending).1]
  exact follows

theorem Restarted.step_eq {ready entered : State} (restarted : state.Restarted line ready entered) :
    state.step = ready.readLogical line := by
  rw [State.step_eq, restarted.opened]
  dsimp only
  rw [restarted.closed, if_neg Bool.false_ne_true]

/-- Where nothing is left open, a reading has come as far as one that is at its first line. -/
theorem Restarted.resumes {source : List Char} {filename : Option String}
    {whole ready wholeReady entered wholeEntered : State}
    (fresh : (State.ofSource source filename).Restarted line ready entered)
    (again : whole.Restarted line wholeReady wholeEntered) (rooted : whole.flushed.arena.Rooted)
    (sameRoot : Arena.empty.node? Arena.root = whole.flushed.arena.node? Arena.root)
    (sameName : whole.feed.filename = filename) :
    Resumes whole.flushed.arena whole.feed.lineno entered wholeEntered := by
  refine ⟨?_, ?_, ?_, ?_, ?_, ?_, ?_⟩
  · rw [fresh.arena, again.arena]
    exact .onto sameRoot _ rooted.size_pos
  · rw [again.current, fresh.current]
    rfl
  · rw [again.stack, fresh.stack]
    rfl
  · rw [again.feed, fresh.feed]
    exact sameName
  · rw [again.feed, fresh.feed]
    simp only [Feed.skip, State.ofSource, Feed.ofSource]
    omega
  · rw [again.indent, fresh.indent]
  · rw [again.filter, fresh.filter]
    rfl

/-- What comes behind a template is read as by itself, onto the tree of that template. -/
theorem restarts {before source : List Char} {filename : Option String} {whole next : State}
    {rest : List (List Char)} (aligned : whole.Aligned) (placed : whole.Placed before)
    (fit : whole.filter.Fit)
    (sameRoot : Arena.empty.node? Arena.root = whole.flushed.arena.node? Arena.root)
    (sameName : whole.feed.filename = filename) (wholePending : whole.feed.pending = line :: rest)
    (pending : (State.ofSource source filename).feed.pending = line :: rest)
    (plain : isPiped line = false) (visible : trimStart line ≠ [])
    (steps : (State.ofSource source filename).step = .ok next) :
    ∃ wholeNext, whole.step = .ok wholeNext ∧
      Resumes whole.flushed.arena whole.feed.lineno next wholeNext ∧
      wholeNext.feed.pending = next.feed.pending ∧ Anchored whole.flushed.arena next := by
  obtain ⟨flush, solid⟩ := split_of_first steps pending plain visible
  have begins := Placed.ofSource source filename
  obtain ⟨unfolded, single⟩ := begins.position.unfolded pending
  obtain ⟨ready, entered, fresh⟩ := exists_restarted (.ofSource source filename) begins .empty
    pending plain flush solid
  obtain ⟨wholeReady, wholeEntered, again⟩ := exists_restarted aligned placed fit wholePending plain
    flush solid
  have resumes := fresh.resumes again (aligned.grows (flushed_grows whole)).rooted sameRoot sameName
  have number : (wholeReady.started line).lineno =
      (ready.started line).lineno + whole.feed.lineno := by
    simp only [started, again.moved, fresh.moved, Feed.skip, State.ofSource, Feed.ofSource, single]
    omega
  have samePending : wholeReady.feed.pending = ready.feed.pending := by
    simp only [again.moved, fresh.moved, Feed.skip, wholePending, pending]
  obtain ⟨count, fits, moved⟩ := lineFeed_ahead ready line
  have together := resumes.readOn fresh.aligned fresh.follows again.follows number moved
    (.of_pending samePending fits)
  rw [fresh.step_eq] at steps
  rw [again.step_eq]
  rw [steps] at together
  obtain ⟨wholeNext, wholeSteps, resumed, wholeMoved⟩ := together.of_ok
  refine ⟨wholeNext, wholeSteps, resumed, ?_, ?_⟩
  · rw [wholeMoved, readLogical_feed steps, moved, Feed.skip, Feed.skip, samePending]
  · obtain ⟨found, after, follows, text, rfl⟩ := readLogical_cases steps
    cases fresh.follows.symm.trans follows
    have told := readText_cases text
    have all : line.takeWhile isIndent ++ (split line).2 = line := List.takeWhile_append_dropWhile
    rw [show line.takeWhile isIndent = [] from flush, List.nil_append] at all
    rw [unfolded, all] at told
    exact anchored_of_first fresh.aligned fresh.current visible told _

end State

/-- In every state between two lines the filter is in its place. -/
theorem Reached.fit {source : List Char} {filename : Option String} {state : State}
    (reached : Reached source filename state) : state.filter.Fit := by
  induction reached with
  | start => exact .empty
  | step reached more steps ih => exact State.step_fit ih more steps

end Template

end HamlTree
