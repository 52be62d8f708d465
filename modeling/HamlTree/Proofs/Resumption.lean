import HamlTree.Proofs.Dating
import HamlTree.Proofs.Grafting

/-!
# Resumption -- reading on in another place

A template can be read by itself or behind other lines. `State.Resumes base offset state whole` says
that the two readings have come equally far: `whole` has the tree of `state` grafted onto `base`, the
same open levels and the same filter, and stands `offset` lines further down. With an empty `base` and
no offset it says that two readings have come to the same state of two sources.

As long as the lines to come look alike, such readings go on side by side (`Resumes.step`): both fail
in the same way, `offset` lines apart, or both come to states that again resume each other. What a
step looks at is `State.feedAfter`, the lines left when it is over or has failed.

One thing could tell the readings apart. A deeper line goes below the last node that is not blank,
which at the root might be one of `base`. An `Anchored` state has such a node of its own, or is about
to have one, or there is nothing in `base`.
-/

set_option autoImplicit false

namespace HamlTree

open Text Indentation

/-! ## Filters on later lines -/

namespace FilterBlock

variable (offset : Nat)

/-- The filter being read, `offset` lines down. -/
def Draft.later (draft : Draft) : Draft :=
  { draft with stamp := draft.stamp.later offset }

/-- The finished filter, `offset` lines down. -/
def Finished.later (block : Finished) : Finished :=
  { block with stamp := block.stamp.later offset }

/-- What has been collected of a filter, `offset` lines down. -/
def Collector.later (collector : Collector) : Collector :=
  { collector with draft := collector.draft.map (Draft.later offset) }

namespace Collector

variable (collector : Collector)

@[simp] theorem isOpen_later : (collector.later offset).isOpen = collector.isOpen :=
  isOpen_restamp (Stamp.later offset) collector

theorem append_later (line : List Char) (level : Nat) :
    (collector.later offset).append line level =
      ((collector.append line level).1.later offset,
        (collector.append line level).2.map (Finished.later offset)) :=
  append_restamp (Stamp.later offset) collector line level

end Collector

end FilterBlock

/-- The error `offset` lines down. -/
def Located.later {Cause : Type} (offset : Nat) (error : Located Cause) : Located Cause :=
  { error with lineno := error.lineno + offset }

namespace Template

open FilterBlock

namespace State

/-! ## Readings side by side -/

/-- `whole` has come as far as `state`, `offset` lines further down and with `base` before it. -/
structure Resumes (base : Arena) (offset : Nat) (state whole : State) : Prop where
  arena : Arena.Grafted base state.arena whole.arena offset
  current : whole.current = base.renumber state.current
  stack : whole.stack = state.stack.map base.renumber
  filename : whole.feed.filename = state.feed.filename
  position : whole.feed.lineno = state.feed.lineno + offset
  indent : whole.indent = state.indent
  filter : whole.filter = state.filter.later offset

/-- Two attempts fail with the same error, which is `moved` in the second, or both come to related
states. -/
inductive Together {Error : Type} (moved : Error → Error) (related : State → State → Prop) :
    Except Error State → Except Error State → Prop where
  | ok {state whole : State} (relates : related state whole) :
      Together moved related (.ok state) (.ok whole)
  | error (error : Error) : Together moved related (.error error) (.error (moved error))

section Together

variable {Error : Type} {moved : Error → Error} {related : State → State → Prop}
  {result : Except Error State}

theorem Together.of_error {error : Error} (together : Together moved related (.error error) result) :
    result = .error (moved error) := by
  cases together
  rfl

theorem Together.of_ok {state : State} (together : Together moved related (.ok state) result) :
    ∃ whole, result = .ok whole ∧ related state whole := by
  cases together with
  | ok relates => exact ⟨_, rfl, relates⟩

end Together

variable {base : Arena} {offset : Nat} {state whole : State}

namespace Resumes

/-- Before their first lines all readings have come equally far. -/
theorem ofSource (source other : List Char) (filename : Option String) :
    Resumes Arena.empty 0 (State.ofSource source filename) (State.ofSource other filename) :=
  ⟨.onto rfl 0 Nat.one_pos, rfl, rfl, rfl, rfl, rfl, rfl⟩

theorem inAuthorComment (resumes : Resumes base offset state whole) (aligned : state.Aligned) :
    whole.inAuthorComment = state.inAuthorComment := by
  rw [State.inAuthorComment, resumes.current]
  exact resumes.arena.isAuthorComment_renumber aligned.rooted _

theorem inFilter (resumes : Resumes base offset state whole) (aligned : state.Aligned) :
    whole.inFilter = state.inFilter := by
  rw [State.inFilter, resumes.inAuthorComment aligned, resumes.filter, Collector.isOpen_later]
  rfl

theorem stampAt (resumes : Resumes base offset state whole) (lineno : Nat) :
    whole.stampAt (lineno + offset) = (state.stampAt lineno).later offset := by
  simp only [State.stampAt, Stamp.later, resumes.filename]

theorem note (resumes : Resumes base offset state whole) {feed wholeFeed : Feed}
    (filename : wholeFeed.filename = feed.filename)
    (position : wholeFeed.lineno = feed.lineno + offset) (filter : Collector)
    (lineno wholeLineno : Nat) :
    Resumes base offset { state with feed, filter, lineno }
      { whole with feed := wholeFeed, filter := filter.later offset, lineno := wholeLineno } :=
  ⟨resumes.arena, resumes.current, resumes.stack, filename, position, resumes.indent, rfl⟩

theorem addNode (resumes : Resumes base offset state whole) (aligned : state.Aligned)
    (node : Node) :
    Resumes base offset (state.addNode node) (whole.addNode (node.later offset)) := by
  refine ⟨?_, resumes.current, resumes.stack, resumes.filename, resumes.position, resumes.indent,
    resumes.filter⟩
  have grown := resumes.arena.append aligned.rooted aligned.container node
  rw [← resumes.current] at grown
  exact grown

theorem addBlanks (resumes : Resumes base offset state whole) (aligned : state.Aligned)
    (first count : Nat) :
    Resumes base offset (state.addBlanks (List.range' first count))
      (whole.addBlanks (List.range' (first + offset) count)) := by
  induction count generalizing state whole first with
  | zero => exact resumes
  | succ count ih =>
      rw [List.range'_succ, List.range'_succ, addBlanks_cons, addBlanks_cons, resumes.stampAt]
      have next := ih (resumes.addNode aligned ⟨state.stampAt first, .blank⟩) (aligned.addNode _)
        (first + 1)
      rw [show first + 1 + offset = first + offset + 1 by omega] at next
      exact next

theorem addFilter (resumes : Resumes base offset state whole) (aligned : state.Aligned)
    {block : Finished} {last : Nat} (fits : block.trailingBlanks ≤ last + 1) :
    Resumes base offset (state.addFilter block last)
      (whole.addFilter (block.later offset) (last + offset)) := by
  have blanks := (resumes.addNode aligned block.node).addBlanks (aligned.addNode _)
    (last + 1 - block.trailingBlanks) block.trailingBlanks
  rw [show last + 1 - block.trailingBlanks + offset =
    last + offset + 1 - block.trailingBlanks by omega] at blanks
  exact blanks

theorem leaveMany (resumes : Resumes base offset state whole) (count : Nat) :
    Resumes base offset (leaveMany count state) (leaveMany count whole) := by
  induction count generalizing state whole with
  | zero => exact resumes
  | succ count ih =>
      refine ih ?_
      have stack := resumes.stack
      cases around : state.stack with
      | nil =>
          rw [around] at stack
          rw [State.leave, State.leave, around, stack]
          exact resumes
      | cons parent rest =>
          rw [around] at stack
          rw [State.leave, State.leave, around, stack]
          exact ⟨resumes.arena, rfl, rfl, resumes.filename, resumes.position, resumes.indent,
            resumes.filter⟩

end Resumes

/-! ## Following indentation side by side -/

theorem topped_moves {next : State} (topped : state.arena.Topped) (aligned : state.Aligned)
    (moves : Moves state next) : next.arena.Topped := by
  induction moves with
  | refl => exact topped
  | @tail middle last first move ih =>
      have inner := aligned.moves first
      cases move with
      | grow growth =>
          cases growth with
          | note feed filter lineno => exact ih
          | add node suits => exact ih.append inner.rooted inner.container node
      | follow followed =>
          cases followed with
          | stay why => exact ih
          | enter solid higher outside enters =>
              obtain ⟨target, youngest, legal, rfl, -⟩ := enter_cases enters inner.container
              exact ih.relocate inner.rooted youngest (inner.isContainer_youngest youngest legal)
          | leave solid lower outside closes =>
              rw [leaveMany_frame]
              exact ih

theorem topped_addFilter {block : Finished} {last : Nat} (aligned : state.Aligned)
    (atRoot : state.current = Arena.root) : (state.addFilter block last).arena.Topped := by
  have topped : (state.arena.append Arena.root block.node).2.Topped :=
    Arena.topped_append (atRoot ▸ aligned.container) rfl
  rw [← atRoot] at topped
  exact topped_moves topped (aligned.addNode block.node) (grows_addBlanks ..).moves

/-- No deeper line goes below a node of `base`: there is none, or the root has a child of its own
that is not blank, or the filter being read will be one. -/
def Anchored (base : Arena) (state : State) : Prop :=
  base.children Arena.root = [] ∨ state.arena.Topped ∨
    ((∃ draft, state.filter.draft = some draft) ∧ state.current = Arena.root)

namespace Anchored

variable {next ready : State} {line : List Char}

theorem stem_or_youngest (anchored : Anchored base state) (closed : state.filter.draft = none)
    (id : Nat) : base.stem id = [] ∨ state.arena.youngest? id ≠ none := by
  cases id with
  | succ id => exact .inl rfl
  | zero =>
      rcases anchored with bare | topped | ⟨⟨draft, found⟩, -⟩
      · exact .inl bare
      · exact .inr topped.youngest?_ne_none
      · cases closed.symm.trans found

theorem opened (anchored : Anchored base state) (aligned : state.Aligned)
    (opened : state.opened = some (line, ready)) : Anchored base ready := by
  rcases anchored with bare | topped | ⟨⟨draft, found⟩, atRoot⟩
  · exact .inl bare
  · exact .inr (.inl (topped_moves topped aligned (opened_grows opened).moves))
  · obtain ⟨feed, -, ⟨-, rfl⟩ | ⟨-, ⟨goesOn, rfl⟩ | ⟨block, -, rfl⟩⟩⟩ := opened_cases opened
    · exact .inr (.inr ⟨⟨draft, found⟩, atRoot⟩)
    · obtain ⟨text, grown⟩ := Collector.append_eq_none found goesOn
      exact .inr (.inr ⟨⟨_, grown⟩, atRoot⟩)
    · exact .inr (.inl (topped_addFilter (aligned.growth (.note state feed _ feed.lineno)) atRoot))

theorem step {source : List Char} (anchored : Anchored base state) (aligned : state.Aligned)
    (stepped : state.Stepped source next) : Anchored base next := by
  cases stepped with
  | @collect draft text line physical feed filter opened found outside taken single grown =>
      exact anchored.opened aligned opened
  | @read line physical feed ready entered after reads told =>
      have moves : Moves ready
          (after.addBlanks (List.range' (state.feed.lineno + 2) (line.count '\n'))) :=
        (((grows_started ready line).moves.tail (.follow reads.followed)).trans
          told.grows.moves).trans (grows_addBlanks ..).moves
      rcases anchored.opened aligned reads.opened with bare | topped | ⟨⟨draft, found⟩, -⟩
      · exact .inl bare
      · exact .inr (.inl (topped_moves topped (aligned.grows reads.readied.grows) moves))
      · cases reads.readied.frame.2.symm.trans found

end Anchored

namespace Resumes

theorem enter (resumes : Resumes base offset state whole) (aligned : state.Aligned)
    (anchored : base.stem state.current = [] ∨ state.arena.youngest? state.current ≠ none)
    (indent : Tracker) :
    Together id (Resumes base offset) { state with indent }.enter { whole with indent }.enter := by
  have grafted := resumes.arena
  have rooted := aligned.rooted
  have container : whole.arena.isContainer whole.current = true := by
    rw [resumes.current, grafted.isContainer_renumber rooted]
    exact aligned.container
  rw [enter_eq aligned.container, enter_eq container, resumes.current,
    grafted.youngest?_renumber rooted anchored]
  cases youngest : state.arena.youngest? state.current with
  | none => exact .error _
  | some target =>
      rw [Option.map_some]
      dsimp only
      rw [grafted.content?_renumber rooted, grafted.isAuthorComment_renumber rooted]
      have faults : ((state.arena.content? target).map (Content.later offset)).bind nestingFault? =
          (state.arena.content? target).bind nestingFault? := by
        cases state.arena.content? target with
        | none => rfl
        | some content => exact Content.nestingFault?_later offset content
      rw [faults]
      cases legal : (state.arena.content? target).bind nestingFault? with
      | some fault => exact .error fault
      | none =>
          have suits := aligned.isContainer_youngest youngest fun content found => by
            simpa [found] using legal
          have moved : ∀ indent, Resumes base offset
              { state with
                arena := state.arena.relocate state.current target, current := target,
                stack := state.current :: state.stack, indent }
              { whole with
                arena := whole.arena.relocate (base.renumber state.current) (base.renumber target)
                current := base.renumber target
                stack := base.renumber state.current :: whole.stack, indent } := by
            intro indent
            refine ⟨grafted.relocate rooted youngest suits, rfl, ?_, resumes.filename,
              resumes.position, rfl, resumes.filter⟩
            rw [resumes.stack]
            rfl
          dsimp only
          split
          · exact .ok (moved _)
          · cases indent.checkStep with
            | error fault => exact .error fault
            | ok checked => exact .ok (moved _)

theorem follow (resumes : Resumes base offset state whole) (aligned : state.Aligned)
    (anchored : base.stem state.current = [] ∨ state.arena.youngest? state.current ≠ none)
    (line : List Char) :
    Together id (Resumes base offset) (state.follow line) (whole.follow line) := by
  unfold State.follow
  rw [resumes.indent]
  rcases processes : state.indent.process line with ⟨indent, fault | processed⟩
  · exact .error fault
  · dsimp only
    obtain ⟨-, -, response⟩ := Tracker.process_response processes
    have moved : Resumes base offset { state with indent } { whole with indent } :=
      ⟨resumes.arena, resumes.current, resumes.stack, resumes.filename, resumes.position, rfl,
        resumes.filter⟩
    generalize processed.events = events at response
    cases response with
    | stay why => exact .ok moved
    | enter solid higher outside =>
        have entered := resumes.enter aligned anchored (state.indent.deeper (levelOf line))
        simp only [applyAll, State.apply]
        generalize { state with indent := state.indent.deeper (levelOf line) }.enter = first at *
        generalize { whole with indent := state.indent.deeper (levelOf line) }.enter = second at *
        cases entered with
        | ok relates => exact .ok relates
        | error fault => exact .error fault
    | leave solid lower outside closes =>
        rw [applyAll_leaves, applyAll_leaves]
        exact .ok (moved.leaveMany _)

end Resumes

/-! ## Reading text side by side -/

/-- Put down what a line means. -/
def tell (state : State) : Line.Meaning → State
  | .node content => state.add content
  | .filter name => { state with filter := .start name (state.stampAt state.lineno) }
  | .nothing => state

/-- The lines left when a line's text has been read, or could not be. -/
def textFeed (state : State) (text : List Char) : Feed :=
  if text.isEmpty || state.inAuthorComment then state.feed
  else (Line.read (state.stampAt state.lineno) text state.feed).2

theorem readText_eq (state : State) (text : List Char) :
    state.readText text =
      if text.isEmpty then .ok (state.add .blank)
      else if state.inAuthorComment then .ok (state.add (Expression.words text true))
      else (Line.read (state.stampAt state.lineno) text state.feed).1.map
        { state with feed := state.textFeed text }.tell := by
  unfold readText textFeed
  by_cases gone : text.isEmpty = true
  · rw [if_pos gone, if_pos gone]
  rw [if_neg gone, if_neg gone]
  by_cases inside : state.inAuthorComment = true
  · rw [if_pos inside, if_pos inside]
  rw [if_neg inside, if_neg inside, if_neg (by simp [gone, inside])]
  rcases Line.read (state.stampAt state.lineno) text state.feed with ⟨_ | _ | _ | _, feed⟩
  · rfl
  · rfl
  · rfl
  · rfl

theorem readText_feed {after : State} {text : List Char} (reads : state.readText text = .ok after) :
    after.feed = state.textFeed text := by
  rw [readText_eq] at reads
  by_cases gone : text.isEmpty = true
  · rw [if_pos gone] at reads
    cases reads
    rw [textFeed, gone]
    rfl
  rw [if_neg gone] at reads
  by_cases inside : state.inAuthorComment = true
  · rw [if_pos inside] at reads
    cases reads
    rw [textFeed, inside, Bool.or_true]
    rfl
  rw [if_neg inside] at reads
  cases reading : (Line.read (state.stampAt state.lineno) text state.feed).1 with
  | error fault => rw [reading] at reads; cases reads
  | ok meaning =>
      rw [reading] at reads
      cases meaning <;> cases reads <;> rfl

namespace Resumes

theorem add (resumes : Resumes base offset state whole) (aligned : state.Aligned)
    (number : whole.lineno = state.lineno + offset) (content : Content) :
    Resumes base offset (state.add content) (whole.add (content.later offset)) := by
  have added := resumes.addNode aligned ⟨state.stampAt state.lineno, content⟩
  rw [Node.later, ← resumes.stampAt, ← number] at added
  exact added

theorem tell (resumes : Resumes base offset state whole) (aligned : state.Aligned)
    (number : whole.lineno = state.lineno + offset) (meaning : Line.Meaning) :
    Resumes base offset (state.tell meaning) (whole.tell (meaning.later offset)) := by
  cases meaning with
  | node content => exact resumes.add aligned number content
  | filter name =>
      have opened := resumes.note resumes.filename resumes.position
        (.start name (state.stampAt state.lineno)) state.lineno whole.lineno
      have same : Collector.later offset (.start name (state.stampAt state.lineno)) =
          .start name (whole.stampAt whole.lineno) := by
        rw [number, resumes.stampAt]
        rfl
      rw [same] at opened
      exact opened
  | nothing => exact resumes

theorem readText {text : List Char} {count : Nat} (resumes : Resumes base offset state whole)
    (aligned : state.Aligned) (number : whole.lineno = state.lineno + offset)
    (moved : state.textFeed text = state.feed.skip count)
    (alike : state.feed.Alike whole.feed count
      (state.feed.Settled text ∧ (state.readText text).isOk = true)) :
    Together id (fun after wholeAfter => Resumes base offset after wholeAfter ∧
      wholeAfter.feed = whole.feed.skip count) (state.readText text) (whole.readText text) := by
  rw [readText_eq] at alike
  rw [readText_eq, readText_eq whole, resumes.inAuthorComment aligned]
  by_cases gone : text.isEmpty = true
  · rw [textFeed, gone, Bool.true_or, if_pos rfl] at moved
    obtain rfl := Feed.eq_zero_of_skip moved
    rw [if_pos gone, if_pos gone]
    exact .ok ⟨resumes.add aligned number .blank, rfl⟩
  rw [if_neg gone] at alike ⊢
  rw [if_neg gone]
  by_cases inside : state.inAuthorComment = true
  · rw [textFeed, inside, Bool.or_true, if_pos rfl] at moved
    obtain rfl := Feed.eq_zero_of_skip moved
    rw [if_pos inside, if_pos inside]
    exact .ok ⟨resumes.add aligned number (Expression.words text true), rfl⟩
  rw [if_neg inside] at alike ⊢
  rw [if_neg inside, moved]
  -- the line reads the same, with a later stamp
  have reading : Line.read (whole.stampAt whole.lineno) text whole.feed =
      Reading.map (Line.Meaning.later offset)
        ((Line.read (state.stampAt state.lineno) text state.feed).1, whole.feed.skip count) := by
    rw [number, resumes.stampAt, Line.read_later, Line.read_alike (alike.weaken ?_) ?_]
    · refine And.imp_right fun isOk => ?_
      cases own : (Line.read (state.stampAt state.lineno) text state.feed).1 with
      | error fault => rw [own] at isOk; exact isOk
      | ok meaning => rfl
    · rw [textFeed, if_neg (by simp [gone, inside])] at moved
      exact moved
  have wholeMoved : whole.textFeed text = whole.feed.skip count := by
    rw [textFeed, if_neg (by simp [gone, resumes.inAuthorComment aligned, inside]), reading]
    rfl
  rw [wholeMoved, reading]
  cases (Line.read (state.stampAt state.lineno) text state.feed).1 with
  | error fault => exact .error fault
  | ok meaning =>
      have noted : Resumes base offset { state with feed := state.feed.skip count }
          { whole with feed := whole.feed.skip count } :=
        ⟨resumes.arena, resumes.current, resumes.stack, resumes.filename,
          by simp only [Feed.skip, resumes.position]; omega, resumes.indent, resumes.filter⟩
      refine .ok ⟨noted.tell (aligned.growth (.note ..)) number meaning, ?_⟩
      cases meaning <;> rfl

end Resumes

/-! ## Steps side by side -/

/-- The lines left when a line that was just taken has been read, or could not be. -/
def lineFeed (ready : State) (line : List Char) : Feed :=
  match (ready.started line).follow (line.filter (· != '\n')) with
  | .error _ => ready.feed
  | .ok entered => entered.textFeed (split (line.filter (· != '\n'))).2

/-- The lines left when the next step is over, or has failed. -/
def feedAfter (state : State) : Feed :=
  match state.opened with
  | none => state.feed
  | some (line, ready) => if ready.filter.isOpen then ready.feed else ready.lineFeed line

theorem textFeed_ahead (state : State) (text : List Char) :
    state.feed.Ahead (state.textFeed text) := by
  unfold textFeed
  split
  · exact .refl _
  · exact Line.read_ahead ..

theorem lineFeed_ahead (ready : State) (line : List Char) :
    ready.feed.Ahead (ready.lineFeed line) := by
  unfold lineFeed
  cases follows : (ready.started line).follow (line.filter (· != '\n')) with
  | error fault => exact .refl _
  | ok entered =>
      have same : entered.feed = ready.feed := (follow_cases follows).2.frame.1
      exact same ▸ entered.textFeed_ahead _

theorem readLogical_feed {ready next : State} {line : List Char}
    (reads : ready.readLogical line = .ok next) : next.feed = ready.lineFeed line := by
  obtain ⟨entered, after, follows, text, rfl⟩ := readLogical_cases reads
  rw [addBlanks_frame, lineFeed, follows]
  dsimp only
  exact readText_feed text

theorem step_feed {next : State} (steps : state.step = .ok next)
    (more : state.feed.hasNext = true) : next.feed = state.feedAfter := by
  obtain ⟨line, ready, opened, ⟨isOpen, rfl⟩ | ⟨closed, reads⟩⟩ := step_cases steps more
  · rw [feedAfter, opened]
    exact (if_pos isOpen).symm
  · rw [feedAfter, opened]
    dsimp only
    rw [closed, if_neg Bool.false_ne_true]
    exact readLogical_feed reads

namespace Resumes

theorem collect (resumes : Resumes base offset state whole) (aligned : state.Aligned)
    (line : List Char) (started : 0 < state.feed.lineno)
    (fits : ∀ block, (state.filter.append line state.indent.current).2 = some block →
      block.trailingBlanks ≤ state.feed.lineno) :
    Resumes base offset (state.collect line) (whole.collect line) := by
  have appends : whole.filter.append line whole.indent.current =
      ((state.filter.append line state.indent.current).1.later offset,
        (state.filter.append line state.indent.current).2.map (Finished.later offset)) := by
    rw [resumes.filter, resumes.indent, Collector.append_later]
  unfold State.collect
  rw [appends]
  rcases appended : state.filter.append line state.indent.current with ⟨filter, _ | block⟩
  · exact resumes.note resumes.filename resumes.position filter state.feed.lineno whole.feed.lineno
  · have noted := resumes.note resumes.filename resumes.position filter state.feed.lineno
      whole.feed.lineno
    have bound := fits block (congrArg Prod.snd appended)
    have added := noted.addFilter (aligned.growth (.note ..))
      (show block.trailingBlanks ≤ state.feed.lineno - 1 + 1 by omega)
    rw [show state.feed.lineno - 1 + offset = whole.feed.lineno - 1 by
      rw [resumes.position]; omega] at added
    exact added

theorem opened {line : List Char} {ready : State} {used : Nat} {settled : Prop}
    (resumes : Resumes base offset state whole) (aligned : state.Aligned) (dated : state.Dated)
    (opened : state.opened = some (line, ready)) (moved : ready.feed = state.feed.skip used)
    (positive : 0 < used) (alike : state.feed.Alike whole.feed used settled) :
    ∃ wholeReady, whole.opened = some (line, wholeReady) ∧
      Resumes base offset ready wholeReady ∧ wholeReady.feed = whole.feed.skip used := by
  have took := opened_feed opened
  rw [moved] at took
  have wholeTook := alike.take took
  rw [← resumes.inFilter aligned] at wholeTook
  have noted : Resumes base offset { state with feed := state.feed.skip used }
      { whole with feed := whole.feed.skip used } :=
    ⟨resumes.arena, resumes.current, resumes.stack, resumes.filename,
      by simp only [Feed.skip, resumes.position]; omega, resumes.indent, resumes.filter⟩
  obtain ⟨wholeReady, wholeOpened⟩ : ∃ wholeReady, whole.opened = some (line, wholeReady) := by
    rw [State.opened, wholeTook]
    exact ⟨_, rfl⟩
  refine ⟨wholeReady, wholeOpened, ?_, ?_⟩
  · rw [State.opened, took] at opened
    rw [State.opened, wholeTook, resumes.inFilter aligned] at wholeOpened
    simp only [Option.some.injEq, Prod.mk.injEq, true_and] at opened wholeOpened
    rw [← opened, ← wholeOpened]
    split
    · rename_i filtering
      refine noted.collect (aligned.growth (.note ..)) line (Nat.add_pos_right _ positive) ?_
      intro block ends
      simp only [State.inFilter, Bool.and_eq_true] at filtering
      obtain ⟨draft, found⟩ := Option.isSome_iff_exists.1 filtering.2
      obtain ⟨rfl, -⟩ := Collector.append_eq_some found ends
      have cut := draft.finish_trailingBlanks_le
      have body := (dated.opened draft found).2
      simp only [Feed.skip]
      omega
    · exact noted
  · have taken := opened_feed wholeOpened
    rw [wholeTook] at taken
    exact (Prod.mk.inj (Option.some.inj taken)).2.symm

/-- Once the indentation has been followed, the text is read and the folded lines are accounted for
side by side. -/
theorem readOn {line : List Char} {count : Nat} {entered wholeEntered : State}
    (resumes : Resumes base offset entered wholeEntered) (aligned : entered.Aligned)
    (follows : (state.started line).follow (line.filter (· != '\n')) = .ok entered)
    (wholeFollows : (whole.started line).follow (line.filter (· != '\n')) = .ok wholeEntered)
    (number : (whole.started line).lineno = (state.started line).lineno + offset)
    (moved : state.lineFeed line = state.feed.skip count)
    (alike : state.feed.Alike whole.feed count
      (state.feed.Settled (split (line.filter (· != '\n'))).2 ∧
        (state.readLogical line).isOk = true)) :
    Together (Located.later offset)
      (fun next wholeNext => Resumes base offset next wholeNext ∧
        wholeNext.feed = whole.feed.skip count) (state.readLogical line)
      (whole.readLogical line) := by
  rw [readLogical_eq, follows] at alike
  rw [readLogical_eq, readLogical_eq whole, follows, wholeFollows, number]
  rw [lineFeed, follows] at moved
  obtain ⟨feed, -, lineno⟩ := (follow_cases follows).2.frame
  obtain ⟨wholeFeed, -, wholeLineno⟩ := (follow_cases wholeFollows).2.frame
  have sameFeed : entered.feed = state.feed := feed
  have sameWholeFeed : wholeEntered.feed = whole.feed := wholeFeed
  have enteredAlike : entered.feed.Alike wholeEntered.feed count
      (entered.feed.Settled (split (line.filter (· != '\n'))).2 ∧
        (entered.readText (split (line.filter (· != '\n'))).2).isOk = true) := by
    rw [sameFeed, sameWholeFeed]
    refine alike.weaken (And.imp_right fun isOk => ?_)
    dsimp only at isOk
    split at isOk
    · cases isOk
    · rename_i after reads
      rw [reads]
      rfl
  have told := resumes.readText aligned (by rw [wholeLineno, lineno, number])
    (by rw [sameFeed]; exact moved) enteredAlike
  dsimp only
  cases reads : entered.readText (split (line.filter (· != '\n'))).2 with
  | error fault =>
      rw [reads] at told
      rw [told.of_error]
      exact Together.error (⟨fault, (state.started line).lineno, none⟩ : SyntaxError)
  | ok after =>
      rw [reads] at told
      obtain ⟨wholeAfter, wholeReads, resumed, rest⟩ := told.of_ok
      rw [wholeReads]
      have blanks := resumed.addBlanks (aligned.grows (readText_cases reads).grows)
        ((state.started line).lineno + 1) (line.count '\n')
      rw [show (state.started line).lineno + 1 + offset =
        (state.started line).lineno + offset + 1 by omega] at blanks
      refine .ok ⟨blanks, ?_⟩
      rw [addBlanks_frame]
      exact rest.trans (by rw [sameWholeFeed])

theorem readLogical {line : List Char} {count : Nat} (resumes : Resumes base offset state whole)
    (aligned : state.Aligned)
    (anchored : base.stem state.current = [] ∨ state.arena.youngest? state.current ≠ none)
    (folded : line.count '\n' ≤ state.feed.lineno)
    (moved : state.lineFeed line = state.feed.skip count)
    (alike : state.feed.Alike whole.feed count
      (state.feed.Settled (split (line.filter (· != '\n'))).2 ∧
        (state.readLogical line).isOk = true)) :
    Together (Located.later offset)
      (fun next wholeNext => Resumes base offset next wholeNext ∧
        wholeNext.feed = whole.feed.skip count) (state.readLogical line)
      (whole.readLogical line) := by
  have started : Resumes base offset (state.started line) (whole.started line) :=
    ⟨resumes.arena, resumes.current, resumes.stack, resumes.filename, resumes.position,
      resumes.indent, resumes.filter⟩
  have number : (whole.started line).lineno = (state.started line).lineno + offset := by
    simp only [State.started, resumes.position]
    omega
  have begun : (state.started line).Aligned := aligned.grows (grows_started state line)
  have together := started.follow begun anchored (line.filter (· != '\n'))
  cases follows : (state.started line).follow (line.filter (· != '\n')) with
  | error fault =>
      rw [follows] at together
      rw [readLogical_eq, readLogical_eq whole, follows, together.of_error, number]
      exact Together.error (⟨fault, (state.started line).lineno, none⟩ : SyntaxError)
  | ok entered =>
      rw [follows] at together
      obtain ⟨wholeEntered, wholeFollows, inner⟩ := together.of_ok
      exact inner.readOn (begun.follow (follow_cases follows).2) follows wholeFollows number moved
        alike

/-- Readings that have come equally far take the next step together, as long as the step cannot tell
the lines to come apart. -/
theorem step {source : List Char} {count : Nat} (resumes : Resumes base offset state whole)
    (anchored : Anchored base state) (placed : state.Placed source) (aligned : state.Aligned)
    (dated : state.Dated) (more : state.feed.hasNext = true)
    (moved : state.feedAfter = state.feed.skip count)
    (alike : state.feed.Alike whole.feed count
      (state.feed.Settled [] ∧ state.step.isOk = true)) :
    Together (Located.later offset)
      (fun next wholeNext => Resumes base offset next wholeNext ∧
        wholeNext.feed = whole.feed.skip count) state.step whole.step := by
  obtain ⟨line, ready, opened⟩ := exists_opened more
  have took := opened_feed opened
  obtain ⟨physical, taken⟩ := placed.position.taken_take took
  obtain ⟨used, positive, -, readyMoved⟩ := Feed.take_skip took
  rw [step_eq, opened] at alike
  rw [step_eq, opened, step_eq whole]
  rw [feedAfter, opened] at moved
  dsimp only at moved alike ⊢
  by_cases isOpen : ready.filter.isOpen = true
  · rw [if_pos isOpen] at moved alike ⊢
    obtain rfl : used = count := Feed.skip_inj (readyMoved.symm.trans moved)
    obtain ⟨wholeReady, wholeOpened, resumed, rest⟩ :=
      resumes.opened aligned dated opened readyMoved positive alike
    rw [wholeOpened]
    dsimp only
    rw [if_pos (by rw [resumed.filter, Collector.isOpen_later]; exact isOpen)]
    exact .ok ⟨resumed, rest⟩
  · rw [if_neg isOpen] at moved alike ⊢
    have closed : ready.filter.draft = none := by simpa [Collector.isOpen] using isOpen
    obtain ⟨rest, -, readMoved⟩ := lineFeed_ahead ready line
    obtain rfl : used + rest = count := by
      rw [readMoved, readyMoved, Feed.skip_skip] at moved
      exact Feed.skip_inj moved
    obtain ⟨wholeReady, wholeOpened, resumed, wholeMoved⟩ :=
      resumes.opened aligned dated opened readyMoved positive alike.initial
    have later := alike.later.weaken
      (And.imp_left fun settled => readyMoved ▸ settled.taken placed.position taken)
    rw [← readyMoved, ← wholeMoved] at later
    have together := resumed.readLogical (aligned.grows (opened_grows opened))
      ((anchored.opened aligned opened).stem_or_youngest closed _)
      (by have := taken.lineno_eq; omega) readMoved later
    rw [wholeOpened, ← Feed.skip_skip, ← wholeMoved]
    dsimp only
    rw [if_neg (by rw [resumed.filter, Collector.isOpen_later]; exact isOpen)]
    exact together

theorem flushed (resumes : Resumes base offset state whole) (aligned : state.Aligned)
    (dated : state.Dated) : Resumes base offset state.flushed whole.flushed := by
  rcases flushed_cases state with ⟨closed, same⟩ | ⟨draft, found, same⟩
  · have wholeClosed : whole.filter.draft = none := by
      rw [resumes.filter, Collector.later, closed]
      rfl
    obtain ⟨-, wholeSame⟩ | ⟨draft, found, -⟩ := flushed_cases whole
    · rw [same, wholeSame]
      exact resumes
    · cases wholeClosed.symm.trans found
  · have wholeFound : whole.filter.draft = some (draft.later offset) := by
      rw [resumes.filter, Collector.later, found]
      rfl
    obtain ⟨closed, -⟩ | ⟨wholeDraft, alsoFound, wholeSame⟩ := flushed_cases whole
    · cases closed.symm.trans wholeFound
    · cases wholeFound.symm.trans alsoFound
      have cut := draft.finish_trailingBlanks_le
      have body := (dated.opened draft found).2
      have noted := resumes.note resumes.filename resumes.position {} state.lineno whole.lineno
      rw [same, wholeSame, resumes.position]
      exact noted.addFilter (aligned.growth (.note state state.feed {} state.lineno)) (by omega)

end Resumes

end State

/-! ## Whole readings side by side -/

namespace Reached

variable {source other : List Char} {filename : Option String} {state : State}

/-- The lines still to come are those of the source after the ones that were taken. -/
theorem feed_eq (reached : Reached source filename state) :
    state.feed = (Feed.ofSource filename source).skip state.feed.lineno ∧
      state.feed.lineno ≤ (lines source).length := by
  have ahead : (Feed.ofSource filename source).Ahead state.feed := by
    induction reached with
    | start => exact .refl _
    | step reached more steps ih => exact ih.trans (State.step_skip steps more).1
  obtain ⟨count, fits, moved⟩ := ahead
  have number : state.feed.lineno = count := by simp [moved, Feed.skip, Feed.ofSource]
  rw [number]
  exact ⟨moved, by simpa [Feed.ofSource] using fits⟩

/-- At the end all lines have been taken. -/
theorem lineno_of_exhausted (reached : Reached source filename state)
    (exhausted : state.feed.hasNext = false) : state.feed.lineno = (lines source).length := by
  obtain ⟨position, within⟩ := reached.feed_eq
  have gone := Feed.hasNext_eq_false.1 exhausted
  rw [position, Feed.skip, List.drop_eq_nil_iff, Feed.ofSource, List.length_map] at gone
  omega

/-- What the reading of a source comes by in lines that another source shares is what the reading of
the other source comes by. -/
theorem resumes {bound : Nat} (reached : Reached source filename state)
    (alike : (Feed.ofSource filename source).Alike (Feed.ofSource filename other) bound
      ((Feed.ofSource filename source).Settled []))
    (within : state.feed.lineno ≤ bound) :
    ∃ whole, Reached other filename whole ∧ State.Resumes Arena.empty 0 state whole ∧
      whole.feed = (Feed.ofSource filename other).skip state.feed.lineno := by
  induction reached with
  | start =>
      exact ⟨State.ofSource other filename, .start, .ofSource source other filename, rfl⟩
  | @step state next reached more steps ih =>
      obtain ⟨⟨count, fits, moved⟩, fewer⟩ := State.step_skip steps more
      have number : next.feed.lineno = state.feed.lineno + count := by rw [moved]; rfl
      have positive : 0 < count := by
        rcases count with _ | count
        · simp [moved, Feed.skip] at fewer
        · exact Nat.succ_pos count
      obtain ⟨whole, wholeReached, resumes, wholeFeed⟩ := ih (by omega)
      obtain ⟨rest, rfl⟩ : ∃ rest, bound = state.feed.lineno + count + rest :=
        ⟨bound - (state.feed.lineno + count), by omega⟩
      have later := alike.initial.later
      rw [← reached.feed_eq.1, ← wholeFeed] at later
      have together := resumes.step (.inl rfl) reached.placed reached.aligned reached.dated more
        ((State.step_feed steps more).symm.trans moved) (later.weaken fun settled => ⟨?_, ?_⟩)
      · rw [steps] at together
        obtain ⟨wholeNext, wholeSteps, resumed, wholeMoved⟩ := together.of_ok
        refine ⟨wholeNext, wholeReached.step (later.hasNext positive) wholeSteps, resumed, ?_⟩
        rw [wholeMoved, wholeFeed, Feed.skip_skip, number]
      · rw [reached.feed_eq.1]
        exact settled.skip _
      · rw [steps]
        rfl

end Reached

end Template

end HamlTree
