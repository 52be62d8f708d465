import HamlTree.Template
import HamlTree.Proofs.ArenaLaws
import HamlTree.Proofs.FeedLaws
import HamlTree.Proofs.TrackerLaws
import Mathlib.Logic.Relation

/-!
# Run -- what one step of reading a template can do

A step takes a line (`State.opened`). If that leaves a filter open, the step is over. If not, the
line is read in four moves: its number is noted (`State.started`), its indentation is followed
(`State.follow`), its text is read (`State.readText`), and the lines folded into it get blank
nodes. `step_cases`, `readLogical_cases`, `follow_cases` and `readText_cases` take a successful
step apart into these, with every guard it passed.

As far as the tree is concerned a step is a row of `Move`s (`step_moves`), so what every move keeps
every step keeps.

`Reached source filename state` says that the reading of `source` comes by `state` between two
lines. What steps keep is kept up to the end of the reading (`Reached.runAux_keeps`), and an accepted
template has been read to its end through reached states (`parse_cases`). A refused one has been read
up to a step that fails (`parse_error_cases`).
-/

set_option autoImplicit false

namespace HamlTree.Template

open Indentation FilterBlock Text

namespace State

/-! ## Taking a line -/

/-- The next line is a raw line of a filter. -/
def inFilter (state : State) : Bool :=
  !state.inAuthorComment && state.filter.isOpen

/-- The line that the next step takes, and the state that reads it unless a filter is still open
then. -/
def opened (state : State) : Option (List Char × State) :=
  match state.feed.take state.inFilter with
  | none => none
  | some (line, feed) =>
    let taken := { state with feed }
    some (line, if state.inFilter then taken.collect line else taken)

theorem step_eq (state : State) :
    state.step =
      match state.opened with
      | none => .ok state
      | some (line, ready) => if ready.filter.isOpen then .ok ready else ready.readLogical line := by
  unfold step opened inFilter
  dsimp only
  cases state.feed.take (!state.inAuthorComment && state.filter.isOpen) with
  | none => rfl
  | some taken => rfl

/-- As long as there are lines, a step takes one. -/
theorem exists_opened {state : State} (more : state.feed.hasNext = true) :
    ∃ line ready, state.opened = some (line, ready) := by
  unfold opened
  cases took : state.feed.take state.inFilter with
  | some taken => exact ⟨_, _, rfl⟩
  | none =>
      cases pending : state.feed.pending with
      | nil => simp [Feed.hasNext, pending] at more
      | cons first rest =>
          simp only [Feed.take, Feed.nextRaw, Feed.next, pending] at took
          split at took
          · cases took
          · split at took <;> cases took

theorem step_cases {state next : State} (steps : state.step = .ok next)
    (more : state.feed.hasNext = true) :
    ∃ line ready, state.opened = some (line, ready) ∧
      (ready.filter.isOpen = true ∧ next = ready ∨
        ready.filter.isOpen = false ∧ ready.readLogical line = .ok next) := by
  obtain ⟨line, ready, took⟩ := exists_opened more
  rw [step_eq, took] at steps
  refine ⟨line, ready, took, ?_⟩
  dsimp only at steps
  split at steps
  · rename_i isOpen
    cases steps
    exact .inl ⟨isOpen, rfl⟩
  · rename_i closed
    exact .inr ⟨by simpa using closed, steps⟩

/-- What taking a line can do: nothing but move the feed; add the line to the filter; or finish the
filter, whose node and trailing blanks are added. -/
theorem opened_cases {state ready : State} {line : List Char}
    (taken : state.opened = some (line, ready)) :
    ∃ feed, state.feed.take state.inFilter = some (line, feed) ∧
      (state.inFilter = false ∧ ready = { state with feed } ∨
        state.inFilter = true ∧
          ((state.filter.append line state.indent.current).2 = none ∧
              ready = { state with
                feed, lineno := feed.lineno
                filter := (state.filter.append line state.indent.current).1 } ∨
            ∃ block, (state.filter.append line state.indent.current).2 = some block ∧
              ready = { state with
                feed, lineno := feed.lineno
                filter := (state.filter.append line state.indent.current).1 }.addFilter block
                  (feed.lineno - 1))) := by
  unfold opened at taken
  split at taken
  · cases taken
  · rename_i first feed took
    simp only [Option.some.injEq, Prod.mk.injEq] at taken
    obtain ⟨rfl, rfl⟩ := taken
    refine ⟨feed, took, ?_⟩
    split
    · rename_i filtering
      refine .inr ⟨filtering, ?_⟩
      simp only [collect]
      rcases appended : state.filter.append first state.indent.current with ⟨filter, _ | block⟩
      · exact .inl ⟨rfl, rfl⟩
      · exact .inr ⟨block, rfl, rfl⟩
    · rename_i plain
      exact .inl ⟨by simpa using plain, rfl⟩

/-! ## Reading a line -/

/-- The state that reads a line just taken, with the number of its first physical line. -/
def started (ready : State) (line : List Char) : State :=
  { ready with lineno := ready.feed.lineno - line.count '\n' }

/-- Close and open containers as a line's indentation asks. -/
def follow (state : State) (line : List Char) : Except Fault State :=
  match state.indent.process line with
  | (_, .error fault) => .error fault
  | (indent, .ok processed) => applyAll processed.events { state with indent }

/-- A line's indentation is followed before its text is read. -/
theorem readLine_eq (state : State) (line : List Char) :
    state.readLine line =
      match state.follow line with
      | .error fault => .error fault
      | .ok entered => entered.readText (split line).2 := by
  unfold readLine follow
  rcases processes : state.indent.process line with ⟨indent, fault | processed⟩
  · rfl
  · obtain ⟨-, text, -⟩ := Tracker.process_response processes
    dsimp only
    cases applyAll processed.events _ with
    | error fault => rfl
    | ok entered => exact congrArg entered.readText text

theorem readLogical_eq (ready : State) (line : List Char) :
    ready.readLogical line =
      match (ready.started line).follow (line.filter (· != '\n')) with
      | .error fault => .error ⟨fault, (ready.started line).lineno, none⟩
      | .ok entered =>
        match entered.readText (split (line.filter (· != '\n'))).2 with
        | .error fault => .error ⟨fault, (ready.started line).lineno, none⟩
        | .ok after =>
          .ok (after.addBlanks (List.range' ((ready.started line).lineno + 1) (line.count '\n'))) := by
  unfold readLogical
  dsimp only
  rw [readLine_eq, ← started]
  cases (ready.started line).follow (line.filter (· != '\n')) with
  | error fault => rfl
  | ok entered => rfl

theorem readLogical_cases {ready next : State} {line : List Char}
    (reads : ready.readLogical line = .ok next) :
    ∃ entered after, (ready.started line).follow (line.filter (· != '\n')) = .ok entered ∧
      entered.readText (split (line.filter (· != '\n'))).2 = .ok after ∧
      next = after.addBlanks
        (List.range' ((ready.started line).lineno + 1) (line.count '\n')) := by
  rw [readLogical_eq] at reads
  split at reads
  · cases reads
  rename_i entered follows
  split at reads
  · cases reads
  rename_i after text
  cases reads
  exact ⟨entered, after, follows, text, rfl⟩

/-! ## Following indentation -/

/-- Leave several containers. -/
def leaveMany : Nat → State → State
  | 0, state => state
  | count + 1, state => leaveMany count state.leave

theorem applyAll_leaves (count level : Nat) (state : State) :
    applyAll (List.replicate count (.leave level)) state = .ok (leaveMany count state) := by
  induction count generalizing state with
  | zero => rfl
  | succ count ih => exact ih state.leave

/-- As long as there are containers to leave, leaving takes them off the stack. -/
theorem leaveMany_eq {count : Nat} {state : State} (fits : count ≤ state.stack.length)
    (indent : Tracker) :
    ∃ current stack, (state.current :: state.stack).drop count = current :: stack ∧
      leaveMany count { state with indent } = { state with indent, current, stack } := by
  induction count generalizing state with
  | zero => exact ⟨state.current, state.stack, rfl, rfl⟩
  | succ count ih =>
      cases around : state.stack with
      | nil => simp [around] at fits
      | cons parent rest =>
          have restFits : count ≤ { state with current := parent, stack := rest }.stack.length := by
            simpa [around] using fits
          obtain ⟨current, stack, dropped, same⟩ := ih restFits
          exact ⟨current, stack, dropped, same⟩

/-- All that following the indentation of an accepted line can do. -/
inductive Followed (state : State) (line : List Char) : State → Prop where
  | stay (why : (split line).2 = [] ∨ levelOf line = state.indent.current ∨
      ∃ comment, state.indent.commentLevel = some comment ∧
        (comment < levelOf line ∨ state.indent.current < levelOf line)) :
      Followed state line state
  | enter {entered : State} (solid : (split line).2 ≠ [])
      (higher : state.indent.current < levelOf line) (outside : state.indent.inComment = false)
      (enters : { state with indent := state.indent.deeper (levelOf line) }.enter = .ok entered) :
      Followed state line entered
  | leave {around : List Nat} {closed : Nat} (solid : (split line).2 ≠ [])
      (lower : levelOf line < state.indent.current)
      (outside : ∀ comment, state.indent.commentLevel = some comment → levelOf line ≤ comment)
      (closes : closeAbove (levelOf line) state.indent.current state.indent.enclosing =
        (levelOf line, around, closed)) :
      Followed state line (leaveMany closed { state with indent := ⟨levelOf line, around, none⟩ })

theorem follow_cases {state entered : State} {line : List Char}
    (follows : state.follow line = .ok entered) :
    '\t' ∉ (split line).1 ∧ Followed state line entered := by
  unfold follow at follows
  rcases processes : state.indent.process line with ⟨indent, fault | processed⟩
  · rw [processes] at follows
    cases follows
  · rw [processes] at follows
    dsimp only at follows
    obtain ⟨tabless, -, response⟩ := Tracker.process_response processes
    refine ⟨tabless, ?_⟩
    generalize processed.events = events at follows response
    cases response with
    | stay why =>
        cases follows
        exact .stay why
    | enter solid higher outside =>
        simp only [applyAll, State.apply] at follows
        cases enters : { state with indent := state.indent.deeper (levelOf line) }.enter with
        | error fault => rw [enters] at follows; cases follows
        | ok inner =>
            rw [enters] at follows
            cases follows
            exact .enter solid higher outside enters
    | leave solid lower outside closes =>
        rw [applyAll_leaves] at follows
        cases follows
        exact .leave solid lower outside closes

theorem isContainer_of_nestingFault? {content : Content} (legal : nestingFault? content = none) :
    content.isContainer = true := by
  cases content <;> simp_all [nestingFault?, Content.isContainer]

/-- Entering goes to the youngest child that is not blank, if it may have children. -/
theorem enter_eq {state : State} {indent : Tracker}
    (container : state.arena.isContainer state.current = true) :
    { state with indent }.enter =
      match state.arena.youngest? state.current with
      | none => .error .indentedStart
      | some target =>
        match (state.arena.content? target).bind nestingFault? with
        | some fault => .error fault
        | none =>
          let entered := { state with
            arena := state.arena.relocate state.current target
            current := target
            stack := state.current :: state.stack
            indent }
          if state.arena.isAuthorComment target then
            .ok { entered with indent := indent.enterComment }
          else indent.checkStep.map fun _ => entered := by
  unfold enter
  rw [Arena.takeTrailingBlanks_eq]
  have last : (state.arena.updateChildren state.current fun _ =>
      state.arena.keptChildren state.current).lastChild? state.current =
        state.arena.youngest? state.current := by
    rw [Arena.lastChild?, Arena.children_updateChildren container, if_pos rfl, Arena.youngest?]
  dsimp only
  rw [last]
  cases state.arena.youngest? state.current with
  | none => rfl
  | some target =>
      dsimp only
      rw [Arena.content?_congr (Arena.node?_updateChildren ..)]
      cases (state.arena.content? target).bind nestingFault? with
      | some fault => rfl
      | none =>
          have comment : (state.arena.relocate state.current target).isAuthorComment target =
              state.arena.isAuthorComment target :=
            Arena.isAuthorComment_congr (Arena.node?_relocate ..)
          change (if (state.arena.relocate state.current target).isAuthorComment target = true
            then _ else _) = _
          rw [comment]
          split
          · rfl
          · cases indent.checkStep with
            | error fault => rfl
            | ok _ => rfl

/-- The child entered has to be a container, and the blank nodes after it go along. -/
theorem enter_cases {state entered : State} {indent : Tracker}
    (enters : { state with indent }.enter = .ok entered)
    (container : state.arena.isContainer state.current = true) :
    ∃ target, state.arena.youngest? state.current = some target ∧
      (∀ content, state.arena.content? target = some content → nestingFault? content = none) ∧
      entered = { state with
        arena := state.arena.relocate state.current target
        current := target
        stack := state.current :: state.stack
        indent := if state.arena.isAuthorComment target then indent.enterComment else indent } ∧
      (state.arena.isAuthorComment target = false → indent.checkStep = .ok ()) := by
  rw [enter_eq container] at enters
  cases youngest : state.arena.youngest? state.current with
  | none => rw [youngest] at enters; cases enters
  | some target =>
      rw [youngest] at enters
      dsimp only at enters
      cases legal : (state.arena.content? target).bind nestingFault? with
      | some fault => rw [legal] at enters; cases enters
      | none =>
          rw [legal] at enters
          dsimp only at enters
          refine ⟨target, rfl, fun content found => by simpa [found] using legal, ?_⟩
          split at enters
          · rename_i inside
            cases enters
            exact ⟨by rw [if_pos inside], fun outside => by rw [inside] at outside; cases outside⟩
          · rename_i outside
            cases even : indent.checkStep with
            | error fault => rw [even] at enters; cases enters
            | ok checked =>
                rw [even] at enters
                cases enters
                exact ⟨by rw [if_neg outside], fun _ => rfl⟩

/-! ## Reading text -/

/-- All that reading the text of an accepted line can do. -/
inductive Told (entered : State) (text : List Char) : State → Prop where
  | blank (gone : text = []) : Told entered text (entered.add .blank)
  | remark (solid : text ≠ []) (inside : entered.inAuthorComment = true) :
      Told entered text (entered.add (Expression.words text true))
  | node {content : Content} {feed : Feed} (solid : text ≠ [])
      (outside : entered.inAuthorComment = false) (moved : entered.feed.Ahead feed)
      (filled : content.isBlank = false)
      (reading : Line.read (entered.stampAt entered.lineno) text entered.feed =
        (.ok (.node content), feed)) :
      Told entered text ({ entered with feed }.add content)
  | filter {name : List Char} (outside : entered.inAuthorComment = false)
      (named : text = ':' :: name) (word : name.all isWord = true) :
      Told entered text { entered with
        filter := .start (String.ofList name) (entered.stampAt entered.lineno) }
  | nothing {feed : Feed} (solid : text ≠ []) (outside : entered.inAuthorComment = false)
      (moved : entered.feed.Ahead feed) (void : trimStart text = []) :
      Told entered text { entered with feed }

theorem readText_cases {entered after : State} {text : List Char}
    (reads : entered.readText text = .ok after) : Told entered text after := by
  unfold readText at reads
  split at reads
  · rename_i gone
    cases reads
    exact .blank (by simpa using gone)
  rename_i solid
  have solid : text ≠ [] := by simpa using solid
  split at reads
  · rename_i inside
    cases reads
    exact .remark solid inside
  rename_i outside
  have outside : entered.inAuthorComment = false := by simpa using outside
  have moved := Line.read_ahead (entered.stampAt entered.lineno) text entered.feed
  rcases reading : Line.read (entered.stampAt entered.lineno) text entered.feed with
    ⟨fault | meaning, feed⟩
  all_goals rw [reading] at reads
  · cases reads
  rw [reading] at moved
  rcases Line.read_cases (congrArg Prod.fst reading) with
    ⟨content, rfl, yields⟩ | ⟨name, rfl, named, word⟩ | ⟨rfl, void⟩
  · cases reads
    exact .node solid outside moved yields.solid reading
  · subst named
    have unmoved : feed = entered.feed := (congrArg Prod.snd reading).symm
    cases reads
    rw [unmoved]
    exact .filter outside rfl word
  · cases reads
    exact .nothing solid outside moved void

/-! ## What stays the same -/

theorem addBlanks_cons (state : State) (lineno : Nat) (rest : List Nat) :
    state.addBlanks (lineno :: rest) =
      (state.addNode ⟨state.stampAt lineno, .blank⟩).addBlanks rest := rfl

/-- Adding blank nodes changes the arena alone. -/
theorem addBlanks_frame (state : State) (linenos : List Nat) :
    state.addBlanks linenos = { state with arena := (state.addBlanks linenos).arena } := by
  induction linenos generalizing state with
  | nil => rfl
  | cons lineno rest ih =>
      rw [addBlanks_cons, ih]
      rfl

theorem addFilter_frame (state : State) (block : Finished) (last : Nat) :
    state.addFilter block last = { state with arena := (state.addFilter block last).arena } := by
  rw [addFilter, addBlanks_frame]
  rfl

theorem leaveMany_frame (count : Nat) (state : State) :
    leaveMany count state = { state with
      current := (leaveMany count state).current, stack := (leaveMany count state).stack } := by
  induction count generalizing state with
  | zero => rfl
  | succ count ih =>
      have left : state.leave = { state with
          current := state.leave.current, stack := state.leave.stack } := by
        unfold leave
        split <;> rfl
      rw [leaveMany, ih, left]

theorem enter_frame {state entered : State} (enters : state.enter = .ok entered) :
    entered.feed = state.feed ∧ entered.filter = state.filter ∧ entered.lineno = state.lineno := by
  unfold enter at enters
  dsimp only at enters
  split at enters
  · cases enters
  split at enters
  · cases enters
  split at enters
  · cases enters
    exact ⟨rfl, rfl, rfl⟩
  split at enters
  · cases enters
    exact ⟨rfl, rfl, rfl⟩
  · cases enters

/-- Following indentation leaves the feed, the filter and the line number alone. -/
theorem Followed.frame {state entered : State} {line : List Char}
    (followed : Followed state line entered) :
    entered.feed = state.feed ∧ entered.filter = state.filter ∧ entered.lineno = state.lineno := by
  cases followed with
  | stay why => exact ⟨rfl, rfl, rfl⟩
  | enter solid higher outside enters =>
      have same := enter_frame enters
      exact same
  | leave solid lower outside closes =>
      rw [leaveMany_frame]
      exact ⟨rfl, rfl, rfl⟩

/-- Following indentation moves blank nodes at most, and changes no node. -/
theorem Followed.nodes {state entered : State} {line : List Char}
    (followed : Followed state line entered)
    (container : state.arena.isContainer state.current = true) :
    entered.arena.size = state.arena.size ∧
      ∀ id, entered.arena.node? id = state.arena.node? id := by
  cases followed with
  | stay why => exact ⟨rfl, fun _ => rfl⟩
  | enter solid higher outside enters =>
      obtain ⟨target, -, -, rfl, -⟩ := enter_cases enters container
      exact ⟨Arena.size_relocate .., fun _ => Arena.node?_relocate ..⟩
  | leave solid lower outside closes =>
      rw [leaveMany_frame]
      exact ⟨rfl, fun _ => rfl⟩

theorem Told.ahead {entered after : State} {text : List Char} (told : Told entered text after) :
    entered.feed.Ahead after.feed := by
  cases told with
  | blank gone => exact .refl _
  | remark solid inside => exact .refl _
  | node solid outside moved filled => exact moved
  | filter outside named word => exact .refl _
  | nothing solid outside moved void => exact moved

theorem readLogical_ahead {ready next : State} {line : List Char}
    (reads : ready.readLogical line = .ok next) : ready.feed.Ahead next.feed := by
  obtain ⟨entered, after, follows, text, rfl⟩ := readLogical_cases reads
  have same := (follow_cases follows).2.frame.1
  have moved := (readText_cases text).ahead
  rw [addBlanks_frame]
  exact same ▸ moved

theorem opened_feed {state ready : State} {line : List Char}
    (taken : state.opened = some (line, ready)) :
    state.feed.take state.inFilter = some (line, ready.feed) := by
  obtain ⟨feed, took, ⟨-, rfl⟩ | ⟨-, ⟨-, rfl⟩ | ⟨block, -, rfl⟩⟩⟩ := opened_cases taken
  · exact took
  · exact took
  · rw [addFilter_frame]
    exact took

/-! ## Moves -/

/-- The ways in which reading changes a state and keeps its depth. A comment's body gets no
containers. -/
inductive Growth : State → State → Prop where
  | note (state : State) (feed : Feed) (filter : Collector) (lineno : Nat) :
      Growth state { state with feed, filter, lineno }
  | add (state : State) (node : Node)
      (suits : state.inAuthorComment = true → node.content.isContainer = false) :
      Growth state (state.addNode node)

/-- The ways in which reading changes a state. -/
inductive Move : State → State → Prop where
  | grow {state next : State} (growth : Growth state next) : Move state next
  | follow {state entered : State} {line : List Char} (followed : Followed state line entered) :
      Move state entered

/-- Several changes in a row that keep the depth. -/
abbrev Grows : State → State → Prop :=
  Relation.ReflTransGen Growth

/-- Several moves in a row. -/
abbrev Moves : State → State → Prop :=
  Relation.ReflTransGen Move

theorem Grows.moves {state next : State} (grows : Grows state next) : Moves state next := by
  induction grows with
  | refl => exact .refl
  | tail _ growth ih => exact ih.tail (.grow growth)

theorem grows_addBlanks (state : State) (linenos : List Nat) :
    Grows state (state.addBlanks linenos) := by
  induction linenos generalizing state with
  | nil => exact .refl
  | cons lineno rest ih =>
      rw [addBlanks_cons]
      exact .head (.add state _ fun _ => rfl) (ih _)

theorem grows_addFilter (state : State) (block : Finished) (last : Nat) :
    Grows state (state.addFilter block last) :=
  .head (.add state block.node fun _ => rfl) (grows_addBlanks ..)

theorem grows_started (ready : State) (line : List Char) : Grows ready (ready.started line) :=
  .single (.note ready ready.feed ready.filter _)

theorem opened_grows {state ready : State} {line : List Char}
    (taken : state.opened = some (line, ready)) : Grows state ready := by
  obtain ⟨feed, -, ⟨-, rfl⟩ | ⟨-, ⟨-, rfl⟩ | ⟨block, -, rfl⟩⟩⟩ := opened_cases taken
  · exact .single (.note state feed state.filter state.lineno)
  · exact .single (.note ..)
  · exact .head (.note ..) (grows_addFilter ..)

theorem Told.grows {entered after : State} {text : List Char} (told : Told entered text after) :
    Grows entered after := by
  cases told with
  | blank gone => exact .single (.add entered _ fun _ => rfl)
  | remark solid inside => exact .single (.add entered _ fun _ => rfl)
  | @node content feed solid outside moved filled =>
      refine .head (.note entered feed entered.filter entered.lineno) (.single (.add _ _ ?_))
      exact fun inside => absurd (outside.symm.trans inside) Bool.false_ne_true
  | filter outside named word =>
      exact .single (.note entered entered.feed _ entered.lineno)
  | @nothing feed solid outside moved void =>
      exact .single (.note entered feed entered.filter entered.lineno)

theorem readLogical_moves {ready next : State} {line : List Char}
    (reads : ready.readLogical line = .ok next) : Moves ready next := by
  obtain ⟨entered, after, follows, text, rfl⟩ := readLogical_cases reads
  have depth : Moves ready entered :=
    (grows_started ready line).moves.tail (.follow (follow_cases follows).2)
  exact (depth.trans (readText_cases text).grows.moves).trans (grows_addBlanks ..).moves

/-- A step is made of moves. -/
theorem step_moves {state next : State} (steps : state.step = .ok next)
    (more : state.feed.hasNext = true) : Moves state next := by
  obtain ⟨line, ready, taken, ⟨-, rfl⟩ | ⟨-, reads⟩⟩ := step_cases steps more
  · exact (opened_grows taken).moves
  · exact (opened_grows taken).moves.trans (readLogical_moves reads)

/-! ## The end -/

/-- The state with the filter at the end of the template finished. -/
def flushed (state : State) : State :=
  match state.filter.finish with
  | (filter, none) => { state with filter }
  | (filter, some block) => { state with filter }.addFilter block state.feed.lineno

theorem flushed_grows (state : State) : Grows state state.flushed := by
  unfold flushed
  split
  · exact .single (.note state state.feed _ state.lineno)
  · exact .head (.note state state.feed _ state.lineno) (grows_addFilter ..)

/-- Finishing never fails: it leaves one container for each open level. -/
theorem finish_eq (state : State) :
    state.finish =
      .ok (leaveMany state.flushed.indent.depth
        { state.flushed with indent := state.flushed.indent.finish.1 }) := by
  unfold finish
  simp only [Tracker.finish_events, applyAll_leaves]
  rfl

/-- Leaving containers changes nothing about the tree. -/
theorem exists_finish_eq (state : State) :
    ∃ final, state.finish = .ok final ∧ final.arena = state.flushed.arena := by
  refine ⟨_, state.finish_eq, ?_⟩
  rw [leaveMany_frame]

/-! ## Progress -/

/-- A step takes at least one line. -/
theorem step_skip {state next : State} (steps : state.step = .ok next)
    (more : state.feed.hasNext = true) :
    state.feed.Ahead next.feed ∧ next.feed.pending.length < state.feed.pending.length := by
  obtain ⟨line, ready, taken, result⟩ := step_cases steps more
  obtain ⟨count, positive, fits, moved⟩ := Feed.take_skip (opened_feed taken)
  have first : state.feed.Ahead ready.feed := ⟨count, fits, moved⟩
  have fewer : ready.feed.pending.length < state.feed.pending.length := by
    rw [moved, Feed.skip, List.length_drop]
    omega
  rcases result with ⟨-, rfl⟩ | ⟨-, reads⟩
  · exact ⟨first, fewer⟩
  · have rest := readLogical_ahead reads
    exact ⟨first.trans rest, Nat.lt_of_le_of_lt rest.pending_length_le fewer⟩

/-! ## Whole runs -/

/-- With fuel for every line, how much there is does not matter. -/
theorem runAux_fuel {fuel more : Nat} {state : State} (enough : state.feed.pending.length ≤ fuel)
    (enoughMore : state.feed.pending.length ≤ more) : runAux fuel state = runAux more state := by
  induction fuel generalizing more state with
  | zero =>
      have exhausted : state.feed.hasNext = false := by
        rw [Feed.hasNext_eq_false]
        exact List.eq_nil_of_length_eq_zero (by omega)
      cases more <;> simp [runAux, exhausted]
  | succ fuel ih =>
      cases next : state.feed.hasNext with
      | false => cases more <;> simp [runAux, next]
      | true =>
          have positive : 0 < state.feed.pending.length := by
            rw [List.length_pos_iff]
            exact Feed.hasNext_eq_true.1 next
          obtain ⟨rest, rfl⟩ : ∃ rest, more = rest + 1 := ⟨more - 1, by omega⟩
          simp only [runAux, next, if_true]
          cases steps : state.step with
          | error fault => rfl
          | ok after =>
              have fewer := (step_skip steps next).2
              exact ih (by omega) (by omega)

theorem run_step {state next : State} (steps : state.step = .ok next)
    (more : state.feed.hasNext = true) : state.run = next.run := by
  have fewer := (step_skip steps more).2
  obtain ⟨fuel, length⟩ : ∃ fuel, state.feed.pending.length = fuel + 1 :=
    ⟨state.feed.pending.length - 1, by omega⟩
  rw [run, length, runAux, if_pos more, steps]
  exact runAux_fuel (by omega) (Nat.le_refl _)

theorem run_of_exhausted {state : State} (exhausted : state.feed.hasNext = false) :
    state.run = .ok state := by
  unfold run
  cases state.feed.pending.length with
  | zero => rfl
  | succ fuel => rw [runAux, exhausted, if_neg Bool.false_ne_true]

theorem run_of_error {state : State} {error : SyntaxError} (more : state.feed.hasNext = true)
    (fails : state.step = .error error) : state.run = .error error := by
  obtain ⟨first, rest, pending⟩ : ∃ first rest, state.feed.pending = first :: rest :=
    List.exists_cons_of_ne_nil (Feed.hasNext_eq_true.1 more)
  rw [run, pending, List.length_cons, runAux, if_pos more, fails]

end State

/-- The reading of `source` comes by this state between two lines. -/
inductive Reached (source : List Char) (filename : Option String) : State → Prop where
  | start : Reached source filename (State.ofSource source filename)
  | step {state next : State} (reached : Reached source filename state)
      (more : state.feed.hasNext = true) (steps : state.step = .ok next) :
      Reached source filename next

namespace Reached

variable {source : List Char} {filename : Option String}

/-- From wherever the reading has come to, it goes on as from the start. -/
theorem run_eq {state : State} (reached : Reached source filename state) :
    (State.ofSource source filename).run = state.run := by
  induction reached with
  | start => rfl
  | step reached more steps ih => exact ih.trans (State.run_step steps more)

/-- As long as there are lines, a reading that is not broken off goes on from where it has come to. -/
theorem goes_on {state last : State} (reached : Reached source filename state)
    (more : state.feed.hasNext = true) (runs : (State.ofSource source filename).run = .ok last) :
    ∃ next, state.step = .ok next ∧ next.run = .ok last := by
  cases steps : state.step with
  | ok next => exact ⟨next, rfl, by rw [← State.run_step steps more, ← reached.run_eq, runs]⟩
  | error fault =>
      rw [reached.run_eq, State.run_of_error more steps] at runs
      cases runs

/-- What holds at some point of the reading and is kept by steps holds at the end. -/
theorem runAux_keeps {kept : State → Prop} {fuel : Nat} {state last : State}
    (reached : Reached source filename state) (holds : kept state)
    (keeps : ∀ {before after : State}, Reached source filename before →
      before.feed.hasNext = true → before.step = .ok after → kept before → kept after)
    (runs : State.runAux fuel state = .ok last) :
    Reached source filename last ∧ kept last ∧
      (state.feed.pending.length ≤ fuel → last.feed.hasNext = false) := by
  induction fuel generalizing state with
  | zero =>
      cases runs
      refine ⟨reached, holds, fun enough => ?_⟩
      rw [Feed.hasNext_eq_false]
      exact List.eq_nil_of_length_eq_zero (by omega)
  | succ fuel ih =>
      simp only [State.runAux] at runs
      split at runs
      · rename_i more
        split at runs
        · rename_i next steps
          obtain ⟨arrives, keepsLast, exhausted⟩ :=
            ih (reached.step more steps) (keeps reached more steps holds) runs
          refine ⟨arrives, keepsLast, fun enough => exhausted ?_⟩
          have fewer := (State.step_skip steps more).2
          omega
        · cases runs
      · rename_i done
        cases runs
        exact ⟨reached, holds, fun _ => by simpa using done⟩

/-- A reading that is not broken off ends in a reached state with no line left. -/
theorem of_run {last : State} (runs : (State.ofSource source filename).run = .ok last) :
    Reached source filename last ∧ last.feed.hasNext = false := by
  obtain ⟨reached, -, exhausted⟩ :=
    @runAux_keeps source filename (fun _ => True) _ _ _ .start trivial
      (fun _ _ _ _ => trivial) runs
  exact ⟨reached, exhausted (Nat.le_refl _)⟩

/-- A reading that is broken off has come to a state whose next step fails. -/
theorem of_runAux_error {fuel : Nat} {state : State} {error : SyntaxError}
    (reached : Reached source filename state) (fails : State.runAux fuel state = .error error) :
    ∃ last, Reached source filename last ∧ last.feed.hasNext = true ∧
      last.step = .error error := by
  induction fuel generalizing state with
  | zero => cases fails
  | succ fuel ih =>
      simp only [State.runAux] at fails
      split at fails
      · rename_i more
        split at fails
        · rename_i next steps
          exact ih (reached.step more steps) fails
        · rename_i cause breaks
          cases fails
          exact ⟨state, reached, more, breaks⟩
      · cases fails

end Reached

/-- The reading of an accepted template ends in a reached state with no line left. Its tree is the
one of that state, with the filter at the end finished. -/
theorem parse_cases {source : List Char} {filename : Option String} {arena : Arena}
    (accepted : parse source filename = .ok arena) :
    ∃ last, (State.ofSource source filename).run = .ok last ∧ Reached source filename last ∧
      last.feed.hasNext = false ∧ last.flushed.arena = arena := by
  unfold parse at accepted
  cases runs : (State.ofSource source filename).run with
  | error fault => rw [runs] at accepted; cases accepted
  | ok last =>
      obtain ⟨reached, exhausted⟩ := Reached.of_run runs
      refine ⟨last, rfl, reached, exhausted, ?_⟩
      obtain ⟨final, finishes, same⟩ := last.exists_finish_eq
      simp only [runs, Except.bind, finishes, Except.ok.injEq] at accepted
      rw [← accepted, same]

/-- A template whose reading comes to the end of its lines is accepted. -/
theorem parse_of_exhausted {source : List Char} {filename : Option String} {last : State}
    (reached : Reached source filename last) (exhausted : last.feed.hasNext = false) :
    parse source filename = .ok last.flushed.arena := by
  obtain ⟨final, finishes, same⟩ := last.exists_finish_eq
  rw [parse, reached.run_eq, State.run_of_exhausted exhausted]
  simp only [Except.bind, finishes, same]

/-- A template whose reading comes to a step that fails is refused for the reason of that step. -/
theorem parse_of_error {source : List Char} {filename : Option String} {last : State}
    {error : SyntaxError} (reached : Reached source filename last)
    (more : last.feed.hasNext = true) (fails : last.step = .error error) :
    parse source filename = .error (error.withFilename filename) := by
  rw [parse, reached.run_eq, State.run_of_error more fails]
  rfl

/-- And for no other reason is a template refused. -/
theorem parse_error_cases {source : List Char} {filename : Option String} {error : SyntaxError}
    (rejected : parse source filename = .error error) :
    ∃ last cause, Reached source filename last ∧ last.feed.hasNext = true ∧
      last.step = .error cause ∧ error = cause.withFilename filename := by
  unfold parse at rejected
  cases runs : (State.ofSource source filename).run with
  | error cause =>
      rw [runs] at rejected
      cases rejected
      obtain ⟨last, reached, more, fails⟩ := Reached.of_runAux_error .start runs
      exact ⟨last, cause, reached, more, fails, rfl⟩
  | ok last =>
      obtain ⟨final, finishes, -⟩ := last.exists_finish_eq
      simp only [runs, Except.bind, finishes] at rejected
      cases rejected

end HamlTree.Template
