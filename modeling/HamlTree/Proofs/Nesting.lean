import HamlTree.Proofs.Dating
import HamlTree.Proofs.PlainReading
import HamlTree.Proofs.SingleTree
import HamlTree.Proofs.Standing

/-!
# Nesting -- a node's parent follows from the indentation of lines

Reading never looks back over lines: the parent of a node is whatever container the stack has on top
when the node is made. `State.Nested` ties every container on the stack to the lines read so far.
With `state.frames` for the containers beside the levels of their contents, innermost first:

* a container's own line is on the level of the container around it (`headed`);
* what is below a container, comments apart, is on the container's level (`level`);
* no line since a container's own is shallower than its level (`within`).

So a node that goes to the top of the stack has as its parent the last node that is indented less,
which is where it `Fits`. For whole templates this is a rule about lines alone, as long as white space
is plain.
-/

set_option autoImplicit false

namespace HamlTree.Template

open Indentation FilterBlock Text

namespace State

variable {source line physical : List Char} {state next ready entered after : State} {feed : Feed}

/-- The containers that nodes may be added to, each with the level of what it contains, innermost
first. -/
def frames (state : State) : List (Nat × Nat) :=
  (state.current :: state.stack).zip (state.indent.current :: state.indent.enclosing)

theorem frames_eq (state : State) :
    state.frames =
      (state.current, state.indent.current) :: state.stack.zip state.indent.enclosing :=
  rfl

theorem mem_frames {frame : Nat × Nat} (member : frame ∈ state.frames) :
    frame.1 ∈ state.current :: state.stack ∧
      frame.2 ∈ state.indent.current :: state.indent.enclosing :=
  List.of_mem_zip (a := frame.1) (b := frame.2) member

/-- Entering puts one more frame on top. -/
theorem frames_enter (state : State) (arena : Arena) (target level : Nat) (comment : Bool) :
    frames { state with
      arena, current := target, stack := state.current :: state.stack
      indent := if comment then (state.indent.deeper level).enterComment
        else state.indent.deeper level } = (target, level) :: state.frames := by
  cases comment <;> rfl

/-- Every container on the stack is at its place among the lines read so far, and every node fits
below its parent. -/
structure Nested (source : List Char) (state : State) : Prop where
  quiet : state.arena.Quiet
  headed : state.frames.IsChain fun inner outer =>
    state.arena.indentation source inner.1 = outer.2
  level : ∀ frame ∈ state.frames, state.arena.isAuthorComment frame.1 = false →
    ∀ child ∈ state.arena.children frame.1, state.arena.isBlank child = false →
      state.arena.indentation source child = frame.2
  within : ∀ frame ∈ state.frames, ∀ id : Nat, state.arena.Stands id → frame.1 < id →
    frame.2 ≤ state.arena.indentation source id
  fits : ∀ {parent child : Nat}, state.arena.Stands child →
    child ∈ state.arena.children parent → state.arena.Fits source parent child

namespace Nested

theorem ofSource (source : List Char) (filename : Option String) :
    (State.ofSource source filename).Nested source where
  quiet _ listed := by simp [State.ofSource, Arena.children_empty] at listed
  headed := .singleton _
  level _ _ _ child listed := by simp [State.ofSource, Arena.children_empty] at listed
  within frame member id stands _ := by
    have stored : id < 1 := stands.stored
    exact absurd (Nat.lt_one_iff.1 stored) stands.notRoot
  fits _ listed := by simp [State.ofSource, Arena.children_empty] at listed

theorem note (nested : state.Nested source) (feed : Feed) (filter : Collector) (lineno : Nat) :
    { state with feed, filter, lineno }.Nested source :=
  ⟨nested.quiet, nested.headed, nested.level, nested.within, nested.fits⟩

/-! ## Adding a node -/

/-- Inside a level, the current container stands and is indented less. -/
theorem current_stands (nested : state.Nested source) (aligned : state.Aligned)
    (deep : state.indent.current ≠ 0) :
    state.arena.Stands state.current ∧
      state.arena.indentation source state.current < state.indent.current := by
  have base := aligned.sound.base
  have steep := aligned.sound.steep
  have depth := aligned.depth
  have headed := nested.headed
  cases levels : state.indent.enclosing with
  | nil =>
      rw [levels] at base
      exact absurd (by simpa using base) deep
  | cons outerLevel levelsAround =>
      rw [Tracker.depth, levels] at depth
      obtain ⟨outer, around, stack⟩ : ∃ outer around, state.stack = outer :: around :=
        List.exists_cons_of_ne_nil (by intro flat; simp [flat] at depth)
      rw [frames_eq, levels, stack, List.zip_cons_cons] at headed
      rw [levels] at steep
      have own : state.arena.indentation source state.current = outerLevel := headed.rel
      have lower : outerLevel < state.indent.current :=
        (List.pairwise_cons.1 steep).1 outerLevel List.mem_cons_self
      have outer_mem : outer ∈ state.stack := stack ▸ List.mem_cons_self
      have listed : state.current ∈ state.arena.children outer := by
        have chain := aligned.chain
        rw [stack] at chain
        exact List.mem_of_getLast? chain.rel
      refine ⟨⟨?_, aligned.lt_size List.mem_cons_self, ?_, ?_⟩, own ▸ lower⟩
      · exact Nat.ne_of_gt (Nat.lt_of_le_of_lt (Nat.zero_le _) (aligned.stack_lt outer_mem))
      · refine Bool.eq_false_iff.2 fun blank => ?_
        have container := aligned.container
        rw [Arena.isContainer_of_isBlank blank] at container
        cases container
      · rw [Arena.inComment_iff nested.quiet aligned.rooted]
        rintro ⟨comment, isComment, member⟩
        rw [aligned.rooted.parent_unique member listed, aligned.outer outer outer_mem] at isComment
        cases isComment

theorem indentation_addNode (node : Node) {id : Nat} (stored : id < state.arena.size) :
    (state.addNode node).arena.indentation source id = state.arena.indentation source id :=
  Arena.indentation_congr (Arena.node?_append_of_lt stored state.current node)

theorem stands_addNode (nested : state.Nested source) (aligned : state.Aligned) {node : Node}
    (suits : state.inAuthorComment = true → node.content.isContainer = false) {id : Nat}
    (stored : id < state.arena.size) :
    (state.addNode node).arena.Stands id ↔ state.arena.Stands id :=
  Arena.stands_append aligned.rooted nested.quiet aligned.container suits stored

/-- A node on the level of the current container fits below it. -/
theorem fits_current (nested : state.Nested source) (aligned : state.Aligned) {node : Node}
    (suits : state.inAuthorComment = true → node.content.isContainer = false)
    (line : (physicalLine? source node.stamp.lineno).isSome = true)
    (level : (state.addNode node).arena.indentation source state.arena.size =
      state.indent.current) :
    (state.addNode node).arena.Fits source state.current state.arena.size := by
  refine ⟨by simpa [State.addNode, Arena.lineno] using line, ?_⟩
  rw [level]
  split
  · rename_i flush
    exact aligned.current_eq_root flush
  · rename_i deep
    have current_lt := aligned.lt_size (List.mem_cons_self ..)
    obtain ⟨currentStands, less⟩ := nested.current_stands aligned deep
    refine ⟨(nested.stands_addNode aligned suits current_lt).2 currentStands, ?_,
      fun {other} otherStands younger before => ?_⟩
    · rw [level, indentation_addNode node current_lt]
      exact less
    · rw [level, indentation_addNode node before]
      have otherStood := (nested.stands_addNode aligned suits before).1 otherStands
      exact nested.within _ (List.mem_cons_self ..) other otherStood younger

theorem addNode (nested : state.Nested source) (aligned : state.Aligned) {node : Node}
    (suits : state.inAuthorComment = true → node.content.isContainer = false)
    (dated : node.content.isBlank = false → state.inAuthorComment = false →
      ∃ physical, physicalLine? source node.stamp.lineno = some physical ∧
        leadingBlanks physical = state.indent.current) :
    (state.addNode node).Nested source := by
  have newStands := Arena.stands_append_size aligned.rooted nested.quiet aligned.container suits
  have newLevel : node.content.isBlank = false → state.inAuthorComment = false →
      (state.addNode node).arena.indentation source state.arena.size = state.indent.current := by
    intro filled outside
    obtain ⟨physical, found, level⟩ := dated filled outside
    simpa [State.addNode, Arena.indentation, Arena.lineno, found] using level
  have lists := Arena.mem_children_append aligned.container node
  have stored_or : ∀ {id : Nat}, id < (state.addNode node).arena.size →
      id < state.arena.size ∨ id = state.arena.size := by
    intro id stored
    rw [State.addNode, Arena.size_append] at stored
    omega
  refine ⟨Arena.Quiet.append nested.quiet aligned.rooted aligned.container suits, ?_, ?_, ?_, ?_⟩
  · refine nested.headed.imp_of_mem_imp fun inner outer innerMem _ own => ?_
    rw [indentation_addNode node (aligned.lt_size (mem_frames innerMem).1)]
    exact own
  · intro frame member notComment child listed filled
    have frameStored := aligned.lt_size (mem_frames member).1
    have notComment : state.arena.isAuthorComment frame.1 = false :=
      (Arena.isAuthorComment_congr (Arena.node?_append_of_lt frameStored ..)).symm.trans notComment
    rcases (lists _ _).1 listed with old | ⟨atCurrent, rfl⟩
    · have stored := aligned.rooted.stored old
      rw [indentation_addNode node stored]
      refine nested.level frame member notComment child old ?_
      exact (Arena.isBlank_congr (Arena.node?_append_of_lt stored ..)).symm.trans filled
    · have solid : node.content.isBlank = false := by
        simpa [State.addNode, Arena.isBlank, Arena.content?] using filled
      have outside : state.inAuthorComment = false := by
        rw [State.inAuthorComment, ← atCurrent]
        exact notComment
      rw [newLevel solid outside]
      rw [frames_eq] at member
      rcases List.mem_cons.1 member with rfl | outer
      · rfl
      · have older := aligned.stack_lt (List.of_mem_zip (a := frame.1) (b := frame.2) outer).1
        omega
  · intro frame member id idStands younger
    rcases stored_or idStands.stored with old | rfl
    · rw [indentation_addNode node old]
      have stood := (nested.stands_addNode aligned suits old).1 idStands
      exact nested.within frame member id stood younger
    · obtain ⟨filled, outside⟩ := newStands.1 idStands
      rw [newLevel filled outside]
      rcases List.mem_cons.1 (mem_frames member).2 with innermost | outer
      · exact Nat.le_of_eq innermost
      · exact Nat.le_of_lt ((List.pairwise_cons.1 aligned.sound.steep).1 _ outer)
  · intro parent child childStands listed
    rcases (lists _ _).1 listed with old | ⟨rfl, rfl⟩
    · have stored := aligned.rooted.stored old
      have stood := (nested.stands_addNode aligned suits stored).1 childStands
      exact (nested.fits stood old).congr (aligned.rooted.parent_lt old) stored
        (fun below => Arena.node?_append_of_lt below ..) (nested.stands_addNode aligned suits)
    · obtain ⟨filled, outside⟩ := newStands.1 childStands
      obtain ⟨physical, found, -⟩ := dated filled outside
      exact nested.fits_current aligned suits (by simp [found]) (newLevel filled outside)

theorem addBlanks (nested : state.Nested source) (aligned : state.Aligned) (linenos : List Nat) :
    (state.addBlanks linenos).Nested source := by
  induction linenos generalizing state with
  | nil => exact nested
  | cons lineno rest ih =>
      rw [addBlanks_cons]
      exact ih (nested.addNode aligned (fun _ => rfl) fun filled => Bool.noConfusion filled)
        (aligned.addNode _)

/-- A finished filter belongs on the level of the line that opened it. -/
theorem addFilter (nested : state.Nested source) (aligned : state.Aligned) {draft : Draft}
    (opens : Opens source draft state.indent.current) (last : Nat) :
    (state.addFilter draft.finish last).Nested source := by
  obtain ⟨physical, -, found, trimmed⟩ := opens
  refine (nested.addNode aligned (fun _ => rfl) fun _ _ => ?_).addBlanks (aligned.addNode _) _
  exact ⟨physical, found, leadingBlanks_of_trimEnd trimmed (by decide)⟩

/-! ## Following indentation -/

theorem enter (nested : state.Nested source) (aligned : state.Aligned) (fresh : state.Fresh)
    (closed : state.filter.draft = none) (outside : state.indent.inComment = false) {level : Nat}
    (enters : { state with indent := state.indent.deeper level }.enter = .ok entered) :
    entered.Nested source := by
  obtain ⟨target, youngest, legal, rfl, -⟩ := enter_cases enters aligned.container
  have container := aligned.isContainer_youngest youngest legal
  have notComment : state.inAuthorComment = false := aligned.comment.symm.trans outside
  obtain ⟨childless, blanks⟩ := fresh closed notComment target youngest
  have listed := Arena.mem_children_of_youngest? youngest
  have older := aligned.rooted.parent_lt listed
  have same : ∀ id, (state.arena.relocate state.current target).indentation source id =
      state.arena.indentation source id := fun id =>
    Arena.indentation_congr (Arena.node?_relocate ..)
  have stands := Arena.stands_relocate aligned.rooted aligned.aged nested.quiet youngest container
  have lists := aligned.rooted.mem_children_relocate youngest container
  have frames := frames_enter state (state.arena.relocate state.current target) target level
    (state.arena.isAuthorComment target)
  refine ⟨Arena.Quiet.relocate nested.quiet aligned.rooted youngest container, ?_, ?_, ?_, ?_⟩
  · rw [frames]
    refine .cons_cons ?_ (nested.headed.imp fun inner outer own => (same _).trans own)
    refine (same target).trans (nested.level _ List.mem_cons_self notComment target listed ?_)
    exact Arena.isBlank_youngest? youngest
  · intro frame member frameComment child childListed filled
    rw [Arena.isAuthorComment_congr (Arena.node?_relocate ..)] at frameComment
    rw [Arena.isBlank_congr (Arena.node?_relocate ..)] at filled
    rw [frames] at member
    rw [same]
    rcases (lists _ _).1 childListed with ⟨old, -⟩ | ⟨-, trailing⟩
    · rcases List.mem_cons.1 member with rfl | outer
      · rw [childless] at old
        cases old
      · exact nested.level frame outer frameComment child old filled
    · rw [Arena.isBlank_of_mem_trailing trailing] at filled
      cases filled
  · intro frame member id idStands younger
    rw [frames] at member
    have idStands := (stands id).1 idStands
    rw [same]
    rcases List.mem_cons.1 member with rfl | outer
    · have filled := idStands.filled
      rw [blanks id younger idStands.stored] at filled
      cases filled
    · exact nested.within frame outer id idStands younger
  · intro parent child childStands childListed
    have childStands := (stands child).1 childStands
    rcases (lists _ _).1 childListed with ⟨old, -⟩ | ⟨-, trailing⟩
    · exact (nested.fits childStands old).congr (aligned.rooted.parent_lt old) childStands.stored
        (fun _ => Arena.node?_relocate ..) fun _ => stands _
    · have filled := childStands.filled
      rw [Arena.isBlank_of_mem_trailing trailing] at filled
      cases filled

theorem leave (nested : state.Nested source) (aligned : state.Aligned) {around : List Nat}
    {level closed : Nat}
    (closes : closeAbove level state.indent.current state.indent.enclosing =
      (level, around, closed)) :
    (leaveMany closed { state with indent := ⟨level, around, none⟩ }).Nested source := by
  obtain ⟨fits, dropped, -⟩ := closeAbove_spec closes
  have fits : closed ≤ state.stack.length := aligned.depth ▸ fits
  obtain ⟨current, stack, left, same⟩ := leaveMany_eq fits ⟨level, around, none⟩
  rw [same]
  have frames : State.frames { state with indent := ⟨level, around, none⟩, current, stack } =
      state.frames.drop closed := by
    rw [State.frames, State.frames, List.zip, List.drop_zipWith, left, dropped]
  refine ⟨nested.quiet, ?_, ?_, ?_, nested.fits⟩
  · rw [frames]
    exact nested.headed.drop closed
  · rw [frames]
    exact fun frame member => nested.level frame (List.mem_of_mem_drop member)
  · rw [frames]
    exact fun frame member => nested.within frame (List.mem_of_mem_drop member)

theorem follow (nested : state.Nested source) (aligned : state.Aligned) (fresh : state.Fresh)
    (closed : state.filter.draft = none) (followed : Followed state line entered) :
    entered.Nested source := by
  cases followed with
  | stay why => exact nested
  | enter solid higher outside enters => exact nested.enter aligned fresh closed outside enters
  | leave solid lower outside closes => exact nested.leave aligned closes

/-! ## Steps -/

theorem readied (nested : state.Nested source) (aligned : state.Aligned)
    (placed : state.Placed source) (readied : Ready state line feed ready) :
    ready.Nested source := by
  cases readied with
  | idle closed => exact nested.note feed state.filter state.lineno
  | closing found outside single =>
      exact (nested.note feed {} feed.lineno).addFilter
        (aligned.growth (.note state feed {} feed.lineno)) (placed.filter _ found).2 _

theorem told (nested : entered.Nested source) (aligned : state.Aligned) (plain : Plain source)
    (reads : Reads source state line physical feed ready entered)
    (told : Told entered (split (line.filter (· != '\n'))).2 after) : after.Nested source := by
  have inner := reads.aligned aligned
  cases told with
  | blank gone => exact nested.addNode inner (fun _ => rfl) fun filled => Bool.noConfusion filled
  | remark solid inside =>
      refine nested.addNode inner (fun _ => rfl) fun _ outside => ?_
      rw [inside] at outside
      cases outside
  | @node content later solid outside moved filled =>
      refine (nested.note later entered.filter entered.lineno).addNode
        (inner.growth (.note entered later entered.filter entered.lineno)) (fun inside => ?_)
        fun _ _ => ⟨physical, ?_, ?_⟩
      · exact absurd (outside.symm.trans inside) Bool.false_ne_true
      · change physicalLine? source entered.lineno = some physical
        rw [reads.lineno_eq]
        exact reads.taken.physical_eq
      · rw [reads.taken.leadingBlanks_eq solid reads.tabless]
        exact ((reads.started_aligned aligned).current_eq reads.followed solid outside).symm
  | filter outside named word => exact nested.note entered.feed _ entered.lineno
  | nothing solid outside moved void =>
      exact absurd void (reads.taken.trimStart_ne_nil plain solid)

theorem step (nested : state.Nested source) (aligned : state.Aligned)
    (placed : state.Placed source) (fresh : state.Fresh) (plain : Plain source)
    (stepped : state.Stepped source next) : next.Nested source := by
  cases stepped with
  | @collect draft text line physical feed filter opened found outside taken single grown =>
      exact nested.note feed filter feed.lineno
  | @read line physical feed ready entered after reads told =>
      have started : (ready.started line).Nested source :=
        (nested.readied aligned placed reads.readied).note ready.feed ready.filter _
      have readyFresh := fresh.readied aligned reads.readied
      have follows := started.follow (reads.started_aligned aligned) readyFresh
        reads.readied.frame.2 reads.followed
      exact (follows.told aligned plain reads told).addBlanks
        ((reads.aligned aligned).grows told.grows) _

end Nested

end State

/-! ## Whole templates -/

variable {source : List Char} {filename : Option String} {arena : Arena}

theorem Reached.nested {state : State} (reached : Reached source filename state)
    (plain : Plain source) : state.Nested source := by
  induction reached with
  | start => exact .ofSource source filename
  | step reached more steps ih =>
      exact ih.step reached.aligned reached.placed (reached.fresh plain) plain
        (State.step_stepped reached.placed more steps)

/-- Comments of an accepted template have only leaves below them, and every node that stands fits
below its parent. -/
theorem fits_of_parse (accepted : parse source filename = .ok arena) (plain : Plain source) :
    arena.Quiet ∧ ∀ {parent child : Nat}, arena.Stands child → child ∈ arena.children parent →
      arena.Fits source parent child := by
  obtain ⟨last, -, reached, -, rfl⟩ := parse_cases accepted
  have nested := reached.nested plain
  have flushed : last.flushed.Nested source := by
    rcases State.flushed_cases last with ⟨-, same⟩ | ⟨draft, found, same⟩
    · rw [same]
      exact nested
    · rw [same]
      exact (nested.note last.feed {} last.lineno).addFilter
        (reached.aligned.growth (.note last last.feed {} last.lineno))
        (reached.placed.filter draft found).2 _
  exact ⟨flushed.quiet, flushed.fits⟩

/-- Where blanks, tabs and line feeds are the only white space, the parent of a node is the root if
the node's line is not indented, and otherwise the node from the last line before it that is indented
less. Blank nodes and what is inside comments for the author do not count. -/
theorem parent_iff_indentation (accepted : parse source filename = .ok arena)
    (plain : Plain source) {child : Nat} (stands : arena.Stands child) :
    (physicalLine? source (arena.lineno child)).isSome = true ∧
      ∀ parent : Nat, child ∈ arena.children parent ↔
        if arena.indentation source child = 0 then parent = Arena.root
        else
          arena.Stands parent ∧ arena.lineno parent < arena.lineno child ∧
            arena.indentation source parent < arena.indentation source child ∧
            ∀ other : Nat, arena.Stands other → arena.lineno other < arena.lineno child →
              arena.indentation source other < arena.indentation source child →
              arena.lineno other ≤ arena.lineno parent := by
  have rooted := rooted_of_parse accepted
  obtain ⟨bound, dated⟩ := datedTo_of_parse accepted
  obtain ⟨home, listed⟩ := rooted.attached (Nat.pos_of_ne_zero stands.notRoot) stands.stored
  have older := rooted.parent_lt listed
  obtain ⟨line, rule⟩ := (fits_of_parse accepted plain).2 stands listed
  have home_iff : ∀ parent : Nat, child ∈ arena.children parent ↔ parent = home := fun parent =>
    ⟨fun member => rooted.parent_unique member listed, fun same => same ▸ listed⟩
  refine ⟨line, fun parent => ?_⟩
  rw [home_iff]
  by_cases flush : arena.indentation source child = 0
  · rw [if_pos flush] at rule ⊢
    rw [rule]
  rw [if_neg flush] at rule ⊢
  have last : ∀ other : Nat, arena.Stands other → arena.lineno other < arena.lineno child →
      arena.indentation source other < arena.indentation source child →
      arena.lineno other ≤ arena.lineno home := by
    intro other otherStands before less
    by_contra later
    have younger := (dated.lt_iff rule.stands.stored otherStands.stored).1 (Nat.not_le.1 later)
    have otherOlder := (dated.lt_iff otherStands.stored stands.stored).1 before
    exact absurd (rule.nearest otherStands younger otherOlder) (Nat.not_le.2 less)
  constructor
  · rintro rfl
    exact ⟨rule.stands, dated.increasing older stands.stored, rule.less, last⟩
  · rintro ⟨parentStands, before, less, nearest⟩
    have le := last parent parentStands before less
    have ge := nearest home rule.stands (dated.increasing older stands.stored) rule.less
    rcases Nat.lt_trichotomy parent home with lower | same | higher
    · exact absurd (dated.increasing lower rule.stands.stored) (Nat.not_lt.2 ge)
    · exact same
    · exact absurd (dated.increasing higher parentStands.stored) (Nat.not_lt.2 le)

/-- Line 7 of this template is indented as line 2 is. Of the lines between, line 5 is a comment for
the author, and line 6 is inside it. -/
theorem parent_iff_indentation_after_comment :
    ∃ arena, parse "%a\n  %b\n    c\n\n  -# d\n    e\n  %f".toList = .ok arena ∧
      arena.Stands 7 ∧ arena.lineno 7 = 7 ∧ 7 ∈ arena.children 1 ∧
      ∀ other : Nat, arena.Stands other → arena.lineno other < 7 →
        arena.indentation "%a\n  %b\n    c\n\n  -# d\n    e\n  %f".toList other < 2 →
        arena.lineno other ≤ arena.lineno 1 := by
  have facts : (parse "%a\n  %b\n    c\n\n  -# d\n    e\n  %f".toList).toOption.map
      (fun arena => (arena.size, arena.isBlank 7, arena.isAuthorComment 1, arena.lineno 7,
        decide (7 ∈ arena.children 1), arena.indentation
          "%a\n  %b\n    c\n\n  -# d\n    e\n  %f".toList 7)) =
        some (8, false, false, 7, true, 2) := by
    decide +kernel
  cases accepted : parse "%a\n  %b\n    c\n\n  -# d\n    e\n  %f".toList with
  | error fault => rw [accepted] at facts; cases facts
  | ok arena =>
      rw [accepted] at facts
      simp only [Except.toOption, Option.map_some, Option.some.injEq, Prod.mk.injEq,
        decide_eq_true_eq] at facts
      obtain ⟨size, filled, notComment, number, listed, width⟩ := facts
      have plain : Plain "%a\n  %b\n    c\n\n  -# d\n    e\n  %f".toList := by decide +kernel
      have rooted := rooted_of_parse accepted
      have outside : ¬ arena.InComment 7 := by
        rw [Arena.inComment_iff (fits_of_parse accepted plain).1 rooted]
        rintro ⟨comment, isComment, member⟩
        rw [rooted.parent_unique member listed, notComment] at isComment
        cases isComment
      have stands : arena.Stands 7 := ⟨by decide, by omega, filled, outside⟩
      have rule := ((parent_iff_indentation accepted plain stands).2 1).1 listed
      rw [width, number, if_neg (by decide)] at rule
      exact ⟨arena, rfl, stands, number, listed, rule.2.2.2⟩

end HamlTree.Template
