import HamlTree.Proofs.Resumption

/-!
# Mirroring -- two readings that differ in what nothing looks at

Two readings can hold different nodes and still do the same, as long as a node of the one and its
counterpart in the other are containers, blank lines or comments alike and allow the same below them.
A `Likeness` is such a correspondence of nodes, together with the change of stamps under which new
nodes come to correspond. `State.Mirrors likeness state other` says that two states hold
corresponding nodes in the same places, with the same containers open. The levels that are open may
differ in one respect: how deep the text of a comment for the author is indented, which nothing asks
for (`Tracker.Mirrors`).

With the same lines to come, such states are `Twins`. Twins take every step together, fail with the
same error or come to twins again (`Twins.step`), and so do whole readings (`Reached.run_twins`).
-/

set_option autoImplicit false

namespace HamlTree

open Text Indentation

/-! ## Nodes that reading treats alike -/

/-- The contents are of one kind as far as reading is concerned. -/
structure Content.Alike (content other : Content) : Prop where
  container : other.isContainer = content.isContainer
  blank : other.isBlank = content.isBlank
  comment : other.isAuthorComment = content.isAuthorComment
  fault : Template.nestingFault? other = Template.nestingFault? content

theorem Content.Alike.refl (content : Content) : content.Alike content :=
  ⟨rfl, rfl, rfl, rfl⟩

theorem Content.Alike.symm {content other : Content} (alike : content.Alike other) :
    other.Alike content :=
  ⟨alike.container.symm, alike.blank.symm, alike.comment.symm, alike.fault.symm⟩

theorem Content.Alike.trans {content middle other : Content} (first : content.Alike middle)
    (second : middle.Alike other) : content.Alike other :=
  ⟨second.container.trans first.container, second.blank.trans first.blank,
    second.comment.trans first.comment, second.fault.trans first.fault⟩

theorem Content.alike_restamp (change : Stamp → Stamp) (content : Content) :
    content.Alike (content.restamp change) :=
  ⟨content.isContainer_restamp change, content.isBlank_restamp change,
    content.isAuthorComment_restamp change, content.nestingFault?_restamp change⟩

/-- A correspondence of nodes that reading treats alike. New nodes correspond if their stamps do. -/
structure Likeness where
  like : Node → Node → Prop
  restamp : Stamp → Stamp
  alike : ∀ {node image : Node}, like node image → node.content.Alike image.content
  fresh : ∀ node : Node, like node (node.restamp restamp)

/-! ## Trees with corresponding nodes -/

namespace Arena

/-- The same tree, with corresponding nodes; the root is the same in both. -/
structure Mirrors (likeness : Likeness) (arena other : Arena) : Prop where
  size : other.size = arena.size
  sameRoot : other.node? root = arena.node? root
  node? : ∀ {id : Nat}, id ≠ root → Option.Rel likeness.like (arena.node? id) (other.node? id)
  children : ∀ id : Nat, other.children id = arena.children id

namespace Mirrors

variable {likeness : Likeness} {arena other : Arena}

theorem refl (reflexive : ∀ node, likeness.like node node) (arena : Arena) :
    arena.Mirrors likeness arena where
  size := rfl
  sameRoot := rfl
  node? {id} _ := by
    cases arena.node? id with
    | none => exact .none
    | some node => exact .some (reflexive node)
  children _ := rfl

variable (mirrors : arena.Mirrors likeness other)
include mirrors

/-- What reading asks of a content has one answer in both trees. -/
theorem content?_map {α : Type} {ask : Content → α}
    (same : ∀ {content image : Content}, content.Alike image → ask image = ask content) (id : Nat) :
    (other.content? id).map ask = (arena.content? id).map ask := by
  by_cases top : id = root
  · rw [top, content?_congr mirrors.sameRoot]
  · have related := mirrors.node? top
    rw [content?, content?]
    generalize arena.node? id = mine, other.node? id = theirs at related
    cases related with
    | none => rfl
    | some like => exact congrArg some (same (likeness.alike like))

theorem any_content? {test : Content → Bool}
    (same : ∀ {content image : Content}, content.Alike image → test image = test content) (id : Nat) :
    (other.content? id).any test = (arena.content? id).any test := by
  have asked := mirrors.content?_map same id
  cases mine : arena.content? id <;> cases theirs : other.content? id <;> simp_all

theorem isContainer (id : Nat) : other.isContainer id = arena.isContainer id :=
  mirrors.any_content? Content.Alike.container id

theorem isBlank (id : Nat) : other.isBlank id = arena.isBlank id :=
  mirrors.any_content? Content.Alike.blank id

theorem isAuthorComment (id : Nat) : other.isAuthorComment id = arena.isAuthorComment id :=
  mirrors.any_content? Content.Alike.comment id

theorem nestingFault? (id : Nat) :
    (other.content? id).bind Template.nestingFault? =
      (arena.content? id).bind Template.nestingFault? := by
  have asked := mirrors.content?_map Content.Alike.fault id
  cases mine : arena.content? id <;> cases theirs : other.content? id <;> simp_all

theorem keptChildren (id : Nat) : other.keptChildren id = arena.keptChildren id := by
  rw [Arena.keptChildren, Arena.keptChildren, dropEndWhile_eq_rdropWhile,
    dropEndWhile_eq_rdropWhile, mirrors.children]
  exact rdropWhile_congr fun child _ => mirrors.isBlank child

theorem trailingBlanks (id : Nat) : other.trailingBlanks id = arena.trailingBlanks id := by
  rw [Arena.trailingBlanks, Arena.trailingBlanks, mirrors.keptChildren, mirrors.children]

theorem youngest? (id : Nat) : other.youngest? id = arena.youngest? id := by
  rw [Arena.youngest?, Arena.youngest?, mirrors.keptChildren]

theorem append {parent : Nat} (rooted : arena.Rooted) (container : arena.isContainer parent = true)
    {node image : Node} (like : likeness.like node image) :
    (arena.append parent node).2.Mirrors likeness (other.append parent image).2 where
  size := by rw [size_append, size_append, mirrors.size]
  sameRoot := by
    rw [node?_append_of_lt rooted.size_pos, node?_append_of_lt (mirrors.size ▸ rooted.size_pos)]
    exact mirrors.sameRoot
  node? {id} below := by
    rw [node?_append, node?_append, mirrors.size]
    split
    · exact .some like
    · exact mirrors.node? below
  children id := by
    rw [children_append container, children_append ((mirrors.isContainer parent).trans container),
      mirrors.size, mirrors.children, mirrors.children]

theorem relocate {parent target : Nat} (rooted : arena.Rooted)
    (youngest : arena.youngest? parent = some target)
    (container : arena.isContainer target = true) :
    (arena.relocate parent target).Mirrors likeness (other.relocate parent target) where
  size := by rw [size_relocate, size_relocate, mirrors.size]
  sameRoot := by
    rw [node?_relocate, node?_relocate]
    exact mirrors.sameRoot
  node? below := by
    rw [node?_relocate, node?_relocate]
    exact mirrors.node? below
  children id := by
    have parentContainer := rooted.container (mem_children_of_youngest? youngest)
    rw [rooted.children_relocate youngest container,
      Arena.children_relocate ((mirrors.isContainer parent).trans parentContainer)
        ((mirrors.isContainer target).trans container) (rooted.parent_ne_youngest youngest),
      mirrors.keptChildren, mirrors.trailingBlanks, mirrors.children, mirrors.children]

end Mirrors

end Arena

/-! ## Levels that differ inside a comment -/

namespace Indentation.Tracker

/-- The same levels are open, apart from that of a comment's text. -/
inductive Mirrors : Tracker → Tracker → Prop where
  | same (tracker : Tracker) : Mirrors tracker tracker
  | inside {comment level other : Nat} (around : List Nat) (deep : comment < level)
      (otherDeep : comment < other) :
      Mirrors ⟨level, comment :: around, some comment⟩ ⟨other, comment :: around, some comment⟩

/-- Leaving a comment closes the level of its text, however deep. -/
theorem leave_inside {comment level other found : Nat} (around : List Nat) (deep : comment < level)
    (otherDeep : comment < other) (outside : ¬ comment < found) :
    (⟨level, comment :: around, some comment⟩ : Tracker).leave found =
      (⟨other, comment :: around, some comment⟩ : Tracker).leave found := by
  have closes : closeAbove found level (comment :: around) =
      closeAbove found other (comment :: around) := by
    rw [closeAbove, closeAbove, if_pos (by omega), if_pos (by omega)]
  unfold leave
  rw [closes]

namespace Mirrors

variable {tracker other : Tracker}

theorem eq_of_outside (mirrors : tracker.Mirrors other) (outside : tracker.inComment = false) :
    other = tracker := by
  cases mirrors with
  | same => rfl
  | inside => cases outside

theorem track (mirrors : tracker.Mirrors other) (found : Nat) :
    (other.track found).2 = (tracker.track found).2 ∧
      (tracker.track found).1.Mirrors (other.track found).1 := by
  cases mirrors with
  | same => exact ⟨rfl, .same _⟩
  | @inside comment level otherLevel around deep otherDeep =>
      rw [@track_inside ⟨level, comment :: around, some comment⟩ _ rfl deep,
        @track_inside ⟨otherLevel, comment :: around, some comment⟩ _ rfl otherDeep]
      by_cases text : comment < found
      · rw [if_pos text, if_pos text]
        exact ⟨rfl, .inside around deep otherDeep⟩
      · rw [if_neg text, if_neg text, leave_inside around deep otherDeep text]
        exact ⟨rfl, .same _⟩

/-- A line is accepted by both or refused by both, for the same reason, and asks for the same changes
of depth. -/
theorem process (mirrors : tracker.Mirrors other) (line : List Char) :
    (other.process line).2 = (tracker.process line).2 ∧
      (tracker.process line).1.Mirrors (other.process line).1 := by
  obtain ⟨events, after⟩ := mirrors.track (split line).1.length
  unfold Tracker.process
  dsimp only
  split
  · exact ⟨rfl, mirrors⟩
  · split
    · exact ⟨rfl, mirrors⟩
    · generalize tracker.track (split line).1.length = mine at events after
      generalize other.track (split line).1.length = theirs at events after
      rcases mine with ⟨mine, outcome⟩
      rcases theirs with ⟨theirs, otherOutcome⟩
      obtain rfl : otherOutcome = outcome := events
      cases otherOutcome with
      | error fault => exact ⟨rfl, after⟩
      | ok changes => exact ⟨rfl, after⟩

end Mirrors

end Indentation.Tracker

namespace Template

open FilterBlock

namespace State

variable {likeness : Likeness} {state other : State}

/-! ## States with corresponding nodes -/

/-- The states have the same containers open, and correspond in what they hold. -/
structure Mirrors (likeness : Likeness) (state other : State) : Prop where
  arena : state.arena.Mirrors likeness other.arena
  current : other.current = state.current
  stack : other.stack = state.stack
  stampAt : ∀ lineno, other.stampAt lineno = likeness.restamp (state.stampAt lineno)
  position : other.feed.lineno = state.feed.lineno
  indent : state.indent.Mirrors other.indent
  filter : other.filter = state.filter.restamp likeness.restamp

/-- The states correspond, and the lines to come are the same. -/
structure Twins (likeness : Likeness) (state other : State) : Prop extends
    Mirrors likeness state other where
  pending : other.feed.pending = state.feed.pending

namespace Mirrors

theorem inAuthorComment (mirrors : Mirrors likeness state other) :
    other.inAuthorComment = state.inAuthorComment := by
  rw [State.inAuthorComment, mirrors.current]
  exact mirrors.arena.isAuthorComment _

theorem inFilter (mirrors : Mirrors likeness state other) : other.inFilter = state.inFilter := by
  rw [State.inFilter, mirrors.inAuthorComment, mirrors.filter, Collector.isOpen_restamp]
  rfl

/-- Both take lines, and what they know of filters and lines changes alike. -/
theorem note (mirrors : Mirrors likeness state other) (count : Nat) (filter : Collector)
    (lineno otherLineno : Nat) :
    Mirrors likeness { state with feed := state.feed.skip count, filter, lineno }
      { other with
        feed := other.feed.skip count
        filter := filter.restamp likeness.restamp
        lineno := otherLineno } where
  arena := mirrors.arena
  current := mirrors.current
  stack := mirrors.stack
  stampAt := mirrors.stampAt
  position := by
    simp only [Feed.skip, mirrors.position]
  indent := mirrors.indent
  filter := rfl

theorem addNode (mirrors : Mirrors likeness state other) (aligned : state.Aligned)
    {node image : Node} (like : likeness.like node image) :
    Mirrors likeness (state.addNode node) (other.addNode image) where
  arena := by
    have grown := mirrors.arena.append aligned.rooted aligned.container like
    rw [← mirrors.current] at grown
    simpa only [State.addNode, mirrors.current] using grown
  current := mirrors.current
  stack := mirrors.stack
  stampAt := mirrors.stampAt
  position := mirrors.position
  indent := mirrors.indent
  filter := mirrors.filter

theorem addBlanks (mirrors : Mirrors likeness state other) (aligned : state.Aligned)
    (linenos : List Nat) :
    Mirrors likeness (state.addBlanks linenos) (other.addBlanks linenos) := by
  induction linenos generalizing state other with
  | nil => exact mirrors
  | cons lineno rest ih =>
      rw [addBlanks_cons, addBlanks_cons, mirrors.stampAt]
      exact ih (mirrors.addNode aligned (likeness.fresh ⟨state.stampAt lineno, .blank⟩))
        (aligned.addNode _)

theorem addFilter (mirrors : Mirrors likeness state other) (aligned : state.Aligned)
    (block : Finished) (last : Nat) :
    Mirrors likeness (state.addFilter block last)
      (other.addFilter (block.restamp likeness.restamp) last) :=
  (mirrors.addNode aligned (likeness.fresh block.node)).addBlanks (aligned.addNode _) _

theorem withIndent (mirrors : Mirrors likeness state other) {indent otherIndent : Tracker}
    (levels : indent.Mirrors otherIndent) :
    Mirrors likeness { state with indent } { other with indent := otherIndent } :=
  ⟨mirrors.arena, mirrors.current, mirrors.stack, mirrors.stampAt, mirrors.position, levels,
    mirrors.filter⟩

theorem leaveMany (mirrors : Mirrors likeness state other) (count : Nat) :
    Mirrors likeness (leaveMany count state) (leaveMany count other) := by
  induction count generalizing state other with
  | zero => exact mirrors
  | succ count ih =>
      refine ih ?_
      have stack := mirrors.stack
      cases around : state.stack with
      | nil =>
          rw [around] at stack
          rw [State.leave, State.leave, around, stack]
          exact mirrors
      | cons parent rest =>
          rw [around] at stack
          rw [State.leave, State.leave, around, stack]
          exact ⟨mirrors.arena, rfl, rfl, mirrors.stampAt, mirrors.position, mirrors.indent,
            mirrors.filter⟩

/-! ## Following indentation side by side -/

/-- Both go down to the same child. -/
theorem entered {target : Nat} {indent otherIndent : Tracker}
    (mirrors : Mirrors likeness state other) (aligned : state.Aligned)
    (youngest : state.arena.youngest? state.current = some target)
    (container : state.arena.isContainer target = true) (levels : indent.Mirrors otherIndent) :
    Mirrors likeness
      { state with
        arena := state.arena.relocate state.current target
        current := target
        stack := state.current :: state.stack
        indent }
      { other with
        arena := other.arena.relocate other.current target
        current := target
        stack := other.current :: other.stack
        indent := otherIndent } where
  arena := by
    have moved := mirrors.arena.relocate aligned.rooted youngest container
    simpa only [mirrors.current] using moved
  current := rfl
  stack := by
    dsimp only
    rw [mirrors.current, mirrors.stack]
  stampAt := mirrors.stampAt
  position := mirrors.position
  indent := levels
  filter := mirrors.filter

theorem container (mirrors : Mirrors likeness state other) (aligned : state.Aligned) :
    other.arena.isContainer other.current = true := by
  rw [mirrors.arena.isContainer, mirrors.current]
  exact aligned.container

theorem enter (mirrors : Mirrors likeness state other) (aligned : state.Aligned)
    (indent : Tracker) :
    Together id (Mirrors likeness) { state with indent }.enter { other with indent }.enter := by
  rw [enter_eq aligned.container, enter_eq (mirrors.container aligned), mirrors.arena.youngest?,
    mirrors.current]
  cases youngest : state.arena.youngest? state.current with
  | none => exact .error _
  | some target =>
      dsimp only
      rw [mirrors.arena.nestingFault?, mirrors.arena.isAuthorComment, ← mirrors.current]
      cases legal : (state.arena.content? target).bind nestingFault? with
      | some fault => exact .error fault
      | none =>
          have suits := aligned.isContainer_youngest youngest fun content found => by
            simpa [found] using legal
          have moved : ∀ indent : Tracker, _ := fun indent =>
            mirrors.entered aligned youngest suits (.same indent)
          rw [← mirrors.current] at moved
          dsimp only
          split
          · exact .ok (moved _)
          · cases indent.checkStep with
            | error fault => exact .error fault
            | ok checked => exact .ok (moved _)

theorem follow (mirrors : Mirrors likeness state other) (aligned : state.Aligned)
    (line : List Char) :
    Together id (Mirrors likeness) (state.follow line) (other.follow line) := by
  obtain ⟨outcome, levels⟩ := mirrors.indent.process line
  have outside := mirrors.indent.eq_of_outside
  unfold State.follow
  rcases processes : state.indent.process line with ⟨indent, fault | processed⟩
  all_goals
    rcases otherProcesses : other.indent.process line with ⟨otherIndent, otherOutcome⟩
    rw [processes, otherProcesses] at outcome levels
    obtain rfl := outcome
  · exact .error fault
  · dsimp only at levels ⊢
    obtain ⟨-, -, response⟩ := Tracker.process_response processes
    have moved := mirrors.withIndent levels
    generalize processed.events = events at response
    cases response with
    | stay why => exact .ok moved
    | enter solid higher notComment =>
        -- outside comments the levels are the same
        obtain rfl : otherIndent = state.indent.deeper (levelOf line) := by
          rw [outside notComment, processes] at otherProcesses
          exact (congrArg Prod.fst otherProcesses).symm
        have entered := mirrors.enter aligned (state.indent.deeper (levelOf line))
        simp only [applyAll, State.apply]
        generalize { state with indent := state.indent.deeper (levelOf line) }.enter = first at *
        generalize { other with indent := state.indent.deeper (levelOf line) }.enter = second at *
        cases entered with
        | ok relates => exact .ok relates
        | error fault => exact .error fault
    | leave solid lower notInside closes =>
        rw [applyAll_leaves, applyAll_leaves]
        exact .ok (moved.leaveMany _)

/-! ## Reading text side by side -/

theorem add (mirrors : Mirrors likeness state other) (aligned : state.Aligned)
    (number : other.lineno = state.lineno) (content : Content) :
    Mirrors likeness (state.add content) (other.add (content.restamp likeness.restamp)) := by
  rw [State.add, State.add, number, mirrors.stampAt]
  exact mirrors.addNode aligned (likeness.fresh ⟨state.stampAt state.lineno, content⟩)

theorem tell (mirrors : Mirrors likeness state other) (aligned : state.Aligned)
    (number : other.lineno = state.lineno) (meaning : Line.Meaning) :
    Mirrors likeness (state.tell meaning) (other.tell (meaning.restamp likeness.restamp)) := by
  cases meaning with
  | node content => exact mirrors.add aligned number content
  | nothing => exact mirrors
  | filter name =>
      refine ⟨mirrors.arena, mirrors.current, mirrors.stack, mirrors.stampAt, mirrors.position,
        mirrors.indent, ?_⟩
      change Collector.start name (other.stampAt other.lineno) = _
      rw [number, mirrors.stampAt]
      rfl

end Mirrors

/-! ## Twins -/

namespace Twins

theorem readText (twins : Twins likeness state other) (aligned : state.Aligned)
    (number : other.lineno = state.lineno) (text : List Char) :
    Together id (Twins likeness) (state.readText text) (other.readText text) := by
  rw [readText_eq, readText_eq other, twins.inAuthorComment]
  by_cases gone : text.isEmpty = true
  · rw [if_pos gone, if_pos gone]
    exact .ok ⟨twins.add aligned number .blank, twins.pending⟩
  rw [if_neg gone, if_neg gone]
  by_cases inside : state.inAuthorComment = true
  · rw [if_pos inside, if_pos inside]
    exact .ok ⟨twins.add aligned number (Expression.words text true), twins.pending⟩
  rw [if_neg inside, if_neg inside]
  obtain ⟨count, fits, moved⟩ :=
    Line.read_ahead (state.stampAt state.lineno) text state.feed
  -- the line reads the same, up to stamps
  have reading : Line.read (other.stampAt other.lineno) text other.feed =
      Reading.map (Line.Meaning.restamp likeness.restamp)
        ((Line.read (state.stampAt state.lineno) text state.feed).1, other.feed.skip count) := by
    rw [number, twins.stampAt, Line.read_restamp,
      Line.read_alike (.of_pending twins.pending fits) moved]
  have feed : state.textFeed text = state.feed.skip count := by
    rw [textFeed, if_neg (by simp [gone, inside]), moved]
  have otherFeed : other.textFeed text = other.feed.skip count := by
    rw [textFeed, if_neg (by simp [gone, twins.inAuthorComment, inside]), reading]
    rfl
  rw [feed, otherFeed, reading]
  cases (Line.read (state.stampAt state.lineno) text state.feed).1 with
  | error fault => exact .error fault
  | ok meaning =>
      have noted := twins.note count state.filter state.lineno other.lineno
      rw [← twins.filter] at noted
      have told := noted.tell (aligned.growth (.note ..)) number meaning
      have pending : (other.feed.skip count).pending = (state.feed.skip count).pending := by
        rw [Feed.skip, Feed.skip, twins.pending]
      refine .ok ⟨told, ?_⟩
      cases meaning <;> exact pending

theorem readLogical (twins : Twins likeness state other) (aligned : state.Aligned)
    (line : List Char) :
    Together id (Twins likeness) (state.readLogical line) (other.readLogical line) := by
  have number : (other.started line).lineno = (state.started line).lineno := by
    simp only [started, twins.position]
  have started : Mirrors likeness (state.started line) (other.started line) :=
    ⟨twins.arena, twins.current, twins.stack, twins.stampAt, twins.position, twins.indent,
      twins.filter⟩
  have begun : (state.started line).Aligned := aligned.grows (grows_started state line)
  have together := started.follow begun (line.filter (· != '\n'))
  rw [readLogical_eq, readLogical_eq other, number]
  cases follows : (state.started line).follow (line.filter (· != '\n')) with
  | error fault =>
      rw [follows] at together
      rw [together.of_error]
      exact .error _
  | ok entered =>
      rw [follows] at together
      obtain ⟨otherEntered, otherFollows, inner⟩ := together.of_ok
      obtain ⟨feed, -, lineno⟩ := (follow_cases follows).2.frame
      obtain ⟨otherFeed, -, otherLineno⟩ := (follow_cases otherFollows).2.frame
      have pending : otherEntered.feed.pending = entered.feed.pending := by
        rw [otherFeed, feed]
        exact twins.pending
      have innerAligned := begun.follow (follow_cases follows).2
      have told := (Twins.mk inner pending).readText innerAligned
        (by rw [otherLineno, lineno, number]) (split (line.filter (· != '\n'))).2
      rw [otherFollows]
      dsimp only
      cases reads : entered.readText (split (line.filter (· != '\n'))).2 with
      | error fault =>
          rw [reads] at told
          rw [told.of_error]
          exact .error _
      | ok after =>
          rw [reads] at told
          obtain ⟨otherAfter, otherReads, read⟩ := told.of_ok
          rw [otherReads]
          have blanks := read.addBlanks (innerAligned.grows (readText_cases reads).grows)
            (List.range' ((state.started line).lineno + 1) (line.count '\n'))
          refine .ok ⟨blanks, ?_⟩
          rw [addBlanks_frame, addBlanks_frame after]
          exact read.pending

theorem collect (twins : Twins likeness state other) (aligned : state.Aligned)
    (outside : state.inAuthorComment = false) (line : List Char) :
    Twins likeness (state.collect line) (other.collect line) := by
  have levels : other.indent = state.indent :=
    twins.indent.eq_of_outside (aligned.comment.trans outside)
  have appends : other.filter.append line other.indent.current =
      ((state.filter.append line state.indent.current).1.restamp likeness.restamp,
        (state.filter.append line state.indent.current).2.map
          (Finished.restamp likeness.restamp)) := by
    rw [twins.filter, levels, Collector.append_restamp]
  unfold State.collect
  rw [appends, twins.position]
  rcases appended : state.filter.append line state.indent.current with ⟨filter, _ | block⟩
  all_goals have noted := twins.note 0 filter state.feed.lineno state.feed.lineno
  · exact ⟨noted, twins.pending⟩
  · refine ⟨noted.addFilter (aligned.growth (.note ..)) block (state.feed.lineno - 1), ?_⟩
    simp only [Option.map_some]
    rw [addFilter_frame, addFilter_frame { state with filter, lineno := state.feed.lineno }]
    exact twins.pending

/-- Twins take the same line, and are twins when it is taken. -/
theorem opened {line : List Char} {ready : State} (twins : Twins likeness state other)
    (aligned : state.Aligned) (opened : state.opened = some (line, ready)) :
    ∃ otherReady, other.opened = some (line, otherReady) ∧ Twins likeness ready otherReady := by
  have took := opened_feed opened
  obtain ⟨used, -, fits, moved⟩ := Feed.take_skip took
  rw [moved] at took
  have alike : state.feed.Alike other.feed used True := .of_pending twins.pending fits
  have otherTook := alike.take took
  rw [← twins.inFilter] at otherTook
  have noted : Twins likeness { state with feed := state.feed.skip used }
      { other with feed := other.feed.skip used } := by
    have same := twins.note used state.filter state.lineno other.lineno
    rw [← twins.filter] at same
    exact ⟨same, by simp only [Feed.skip, twins.pending]⟩
  refine ⟨_, by rw [State.opened, otherTook], ?_⟩
  rw [State.opened, took] at opened
  simp only [Option.some.injEq, Prod.mk.injEq, true_and] at opened
  rw [← opened, twins.inFilter]
  split
  · rename_i filtering
    simp only [State.inFilter, Bool.and_eq_true, Bool.not_eq_true'] at filtering
    exact noted.collect (aligned.growth (.note ..)) filtering.1 line
  · exact noted

theorem step (twins : Twins likeness state other) (aligned : state.Aligned)
    (more : state.feed.hasNext = true) :
    Together id (Twins likeness) state.step other.step := by
  obtain ⟨line, ready, opened⟩ := exists_opened more
  obtain ⟨otherReady, otherOpened, readied⟩ := twins.opened aligned opened
  rw [step_eq, opened, step_eq other, otherOpened]
  dsimp only
  rw [readied.filter, Collector.isOpen_restamp]
  split
  · exact .ok readied
  · exact readied.readLogical (aligned.grows (opened_grows opened)) line

theorem flushed (twins : Twins likeness state other) (aligned : state.Aligned) :
    state.flushed.arena.Mirrors likeness other.flushed.arena := by
  have finishes : other.filter.finish =
      (state.filter.finish.1.restamp likeness.restamp,
        state.filter.finish.2.map (Finished.restamp likeness.restamp)) := by
    rw [twins.filter]
    exact Collector.close_restamp likeness.restamp state.filter
  unfold State.flushed
  rw [finishes, twins.position]
  rcases finished : state.filter.finish with ⟨filter, _ | block⟩
  all_goals have noted := twins.note 0 filter state.lineno other.lineno
  · exact noted.arena
  · exact (noted.addFilter (aligned.growth (.note ..)) block state.feed.lineno).arena

end Twins

end State

/-! ## Whole readings -/

variable {likeness : Likeness} {source otherSource : List Char}
  {filename otherFilename : Option String} {state other : State}

/-- Readings that have come to twins end alike. -/
theorem Reached.run_twins (reached : Reached source filename state)
    (twins : State.Twins likeness state other) :
    State.Together id (fun last otherLast => Reached source filename last ∧
      State.Twins likeness last otherLast) state.run other.run := by
  induction known : state.feed.pending.length using Nat.strongRecOn generalizing state other with
  | _ left ih =>
      have same : other.feed.hasNext = state.feed.hasNext := by
        rw [Feed.hasNext, twins.pending]
        rfl
      cases more : state.feed.hasNext with
      | false =>
          rw [State.run_of_exhausted more, State.run_of_exhausted (same.trans more)]
          exact .ok ⟨reached, twins⟩
      | true =>
          have together := twins.step reached.aligned more
          cases steps : state.step with
          | error fault =>
              rw [steps] at together
              rw [State.run_of_error more steps,
                State.run_of_error (same.trans more) together.of_error]
              exact .error fault
          | ok next =>
              rw [steps] at together
              obtain ⟨otherNext, otherSteps, following⟩ := together.of_ok
              have fewer := (State.step_skip steps more).2
              rw [State.run_step steps more, State.run_step otherSteps (same.trans more)]
              exact ih _ (known ▸ fewer) (reached.step more steps) following rfl

/-- Sources whose readings come to twins are both accepted, with corresponding trees, or both refused
for the same reason. -/
theorem parse_twins (reached : Reached source filename state)
    (otherReached : Reached otherSource otherFilename other)
    (twins : State.Twins likeness state other) :
    (∃ arena image, parse source filename = .ok arena ∧
        parse otherSource otherFilename = .ok image ∧ arena.Mirrors likeness image) ∨
      ∃ error : SyntaxError, parse source filename = .error (error.withFilename filename) ∧
        parse otherSource otherFilename = .error (error.withFilename otherFilename) := by
  have together := reached.run_twins twins
  rw [parse, parse, reached.run_eq, otherReached.run_eq]
  cases runs : state.run with
  | error fault =>
      rw [runs] at together
      rw [together.of_error]
      exact .inr ⟨fault, rfl, rfl⟩
  | ok last =>
      rw [runs] at together
      obtain ⟨otherLast, otherRuns, lastReached, following⟩ := together.of_ok
      obtain ⟨final, finishes, same⟩ := last.exists_finish_eq
      obtain ⟨otherFinal, otherFinishes, otherSame⟩ := otherLast.exists_finish_eq
      rw [otherRuns]
      simp only [Except.bind, finishes, otherFinishes, same, otherSame]
      exact .inl ⟨_, _, rfl, rfl, following.flushed lastReached.aligned⟩

end Template

end HamlTree
