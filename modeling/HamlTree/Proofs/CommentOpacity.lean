import HamlTree.Proofs.Dispatch
import HamlTree.Proofs.Mirroring

/-!
# CommentOpacity -- what stands in a comment for the author decides nothing

The text below a comment for the author is kept, line by line, and otherwise ignored: signs have no
meaning there, and it may be indented in any way that is deeper than the comment. Put other lines in
its place, blank lines apart, and the tree stays the same but for their words, and the error the same
without exception (`parse_veil_eq`).

`Arena.veil hidden` is a tree without the words of its texts on hidden lines. Two readings whose trees
are the same behind such a veil go through the text of the comment side by side
(`Mirrors.step_remark`); the level that its first line opens may differ, but does not outlive the
comment. When the text is over they have the same lines to come, and are `Twins`.
-/

set_option autoImplicit false

namespace HamlTree

open Text Indentation

/-! ## Trees without the words on some lines -/

/-- The content, without words if it is text. -/
def Content.wordless : Content → Content
  | .text _ escapes => .text "" escapes
  | content => content

theorem Content.alike_wordless (content : Content) : content.Alike content.wordless := by
  cases content <;> exact ⟨rfl, rfl, rfl, rfl⟩

/-- The node, without words if it is text on a hidden line. -/
def Node.veil (hidden : Nat → Bool) (node : Node) : Node :=
  if hidden node.stamp.lineno then { node with content := node.content.wordless } else node

theorem Node.alike_veil (hidden : Nat → Bool) (node : Node) :
    node.content.Alike (node.veil hidden).content := by
  unfold Node.veil
  split
  · exact node.content.alike_wordless
  · exact .refl _

/-- Nodes that are the same but for the words on hidden lines. -/
def Likeness.veiled (hidden : Nat → Bool) : Likeness where
  like node image := image.veil hidden = node.veil hidden
  restamp := id
  alike {node image} same := by
    have veiled := node.alike_veil hidden
    rw [← same] at veiled
    exact veiled.trans (image.alike_veil hidden).symm
  fresh node := by rw [node.restamp_id]

theorem Likeness.veiled_words {hidden : Nat → Bool} {stamp : Stamp} {text other : List Char}
    (hides : text ≠ other → hidden stamp.lineno = true) :
    (veiled hidden).like ⟨stamp, Expression.words text true⟩
      ⟨stamp, Expression.words other true⟩ := by
  by_cases same : text = other
  · rw [same]
    rfl
  · change Node.veil hidden _ = Node.veil hidden _
    rw [Node.veil, Node.veil, if_pos (hides same), if_pos (hides same)]
    rfl

/-- The tree without the words of its texts on hidden lines. -/
def Arena.veil (hidden : Nat → Bool) (arena : Arena) : Arena :=
  ⟨arena.slots.map fun slot => { slot with node := slot.node.veil hidden }⟩

namespace Arena

variable {hidden : Nat → Bool} {arena other : Arena}

theorem node?_veil (id : Nat) :
    (arena.veil hidden).node? id = (arena.node? id).map (Node.veil hidden) := by
  simp only [node?, veil, Array.getElem?_map, Option.map_map]
  rfl

theorem children_veil (id : Nat) : (arena.veil hidden).children id = arena.children id := by
  simp only [children, veil, Array.getElem?_map]
  cases arena.slots[id]? <;> rfl

theorem Mirrors.veil_eq (mirrors : arena.Mirrors (.veiled hidden) other) :
    other.veil hidden = arena.veil hidden := by
  refine ext_of_nodes (fun id => ?_) fun id => ?_
  · rw [node?_veil, node?_veil]
    by_cases top : id = root
    · rw [top, mirrors.sameRoot]
    · have related := mirrors.node? top
      generalize arena.node? id = mine, other.node? id = theirs at related
      cases related with
      | none => rfl
      | some like => exact congrArg some like
  · rw [children_veil, children_veil, mirrors.children]

end Arena

/-! ## The text of a comment -/

/-- The line is text of a comment on this level. -/
structure Remark (level : Nat) (line : List Char) : Prop where
  solid : (split line).2 ≠ []
  tabless : '\t' ∉ (split line).1
  deep : level < levelOf line
  unpiped : isPiped line = false

/-- Text of a comment stands in both places, or nothing does. -/
inductive Interchangeable (level : Nat) : List Char → List Char → Prop where
  | blank : Interchangeable level [] []
  | remark {line other : List Char} (first : Remark level line) (second : Remark level other) :
      Interchangeable level line other

namespace Indentation.Tracker

variable {tracker : Tracker} {level : Nat} {line : List Char}

theorem Mirrors.commentLevel {other : Tracker} (mirrors : tracker.Mirrors other) :
    other.commentLevel = tracker.commentLevel := by
  cases mirrors with
  | same => rfl
  | inside => rfl

/-- A line of a comment's text changes nothing while the comment is being read. -/
theorem process_inside (sound : tracker.Sound) (inside : tracker.commentLevel = some level)
    (remark : Remark level line) :
    tracker.process line = (tracker, .ok ⟨(split line).2, (split line).1, []⟩) := by
  rw [process_of_solid remark.tabless remark.solid, track_inside inside (sound.comment_lt inside),
    if_pos remark.deep]
  rfl

/-- Behind the comment it opens a level. -/
theorem process_behind (outside : tracker.inComment = false) (current : tracker.current = level)
    (remark : Remark level line) :
    tracker.process line = (tracker.deeper (levelOf line),
      .ok ⟨(split line).2, (split line).1, [.enter (levelOf line)]⟩) := by
  rw [process_of_solid remark.tabless remark.solid, track, if_pos (current ▸ remark.deep), outside,
    if_neg Bool.false_ne_true]
  rfl

end Indentation.Tracker

namespace Template

open FilterBlock

namespace State

variable {state other : State} {level : Nat} {first : List Char} {rest : List (List Char)}

/-- A deeper line that follows is text of a comment on this level: the comment is being read, or it is
the last thing that was read apart from blank lines. -/
structure Remarking (level : Nat) (state : State) : Prop where
  closed : state.filter.isOpen = false
  inside : state.indent.commentLevel = some level ∨
    state.indent.inComment = false ∧ state.indent.current = level ∧
      ∃ comment, state.arena.youngest? state.current = some comment ∧
        state.arena.isAuthorComment comment = true

/-- The state that reads the next line, if that is not piped. -/
def begun (state : State) : State :=
  { state with feed := state.feed.skip 1, lineno := state.feed.lineno + 1 }

/-- Where no filter is open, a line that is not piped is read as it stands. -/
theorem step_of_unpiped {source : List Char} {entered after : State}
    (closed : state.filter.isOpen = false) (position : state.feed.At source)
    (pending : state.feed.pending = first :: rest) (unpiped : isPiped first = false)
    (follows : state.begun.follow first = .ok entered)
    (reads : entered.readText (split first).2 = .ok after) : state.step = .ok after := by
  have idle : state.inFilter = false := by
    rw [inFilter, closed, Bool.and_false]
  have opened : state.opened = some (first, { state with feed := state.feed.skip 1 }) := by
    simp [State.opened, idle, Feed.take, Feed.next, pending, unpiped, Feed.skip]
  obtain ⟨same, single⟩ := position.unfolded pending
  have started : { state with feed := state.feed.skip 1 }.started first = state.begun := by
    rw [State.started, single]
    rfl
  rw [step_eq, opened]
  dsimp only
  rw [closed, if_neg Bool.false_ne_true, readLogical_eq, started, same, follows]
  dsimp only
  rw [reads, single]
  rfl

theorem follow_blank (state : State) : state.follow [] = .ok state := rfl

/-- A line of a comment's text is followed into the comment, or nowhere if the comment is being
read. -/
theorem Remarking.follow (remarking : Remarking level state) (aligned : state.Aligned)
    (remark : Remark level first) :
    (state.indent.commentLevel = some level ∧ state.follow first = .ok state) ∨
      state.indent.inComment = false ∧ ∃ comment,
        state.arena.youngest? state.current = some comment ∧
        state.arena.isContainer comment = true ∧
        state.arena.isAuthorComment comment = true ∧
        state.follow first = .ok { state with
          arena := state.arena.relocate state.current comment
          current := comment
          stack := state.current :: state.stack
          indent := ⟨levelOf first, level :: state.indent.enclosing, some level⟩ } := by
  rcases remarking.inside with found | ⟨outside, current, comment, youngest, isComment⟩
  · refine .inl ⟨found, ?_⟩
    rw [State.follow, Tracker.process_inside aligned.sound found remark]
    rfl
  · obtain ⟨content, stored⟩ := Arena.exists_content?
      (aligned.rooted.stored (Arena.mem_children_of_youngest? youngest))
    obtain rfl : content = .authorComment := by
      rw [Arena.isAuthorComment, stored] at isComment
      cases content <;> simp_all [Content.isAuthorComment]
    refine .inr ⟨outside, comment, youngest, by rw [Arena.isContainer, stored]; rfl, isComment, ?_⟩
    have entered := @enter_eq state (state.indent.deeper (levelOf first)) aligned.container
    rw [youngest] at entered
    dsimp only at entered
    rw [stored, isComment] at entered
    rw [State.follow, Tracker.process_behind outside current remark]
    dsimp only [applyAll, State.apply]
    rw [entered, ← current]
    rfl

/-- States that correspond are both about to read a comment's text, or neither is. -/
theorem Remarking.mirrored {likeness : Likeness} (remarking : Remarking level state)
    (mirrors : Mirrors likeness state other) : Remarking level other where
  closed := by
    rw [mirrors.filter, Collector.isOpen_restamp]
    exact remarking.closed
  inside := by
    rcases remarking.inside with found | ⟨outside, current, comment, youngest, isComment⟩
    · exact .inl (mirrors.indent.commentLevel.trans found)
    · have levels := mirrors.indent.eq_of_outside outside
      rw [levels, mirrors.current]
      refine .inr ⟨outside, current, comment, ?_, ?_⟩
      · rw [mirrors.arena.youngest?, youngest]
      · rw [mirrors.arena.isAuthorComment, isComment]

/-- Both follow a line of the comment's text into the comment, however deep each of the lines is. -/
theorem Mirrors.follow_remark {likeness : Likeness} {line otherLine : List Char}
    (mirrors : Mirrors likeness state other) (aligned : state.Aligned)
    (otherAligned : other.Aligned) (remarking : Remarking level state) (remark : Remark level line)
    (otherRemark : Remark level otherLine) :
    ∃ entered otherEntered, state.follow line = .ok entered ∧
      other.follow otherLine = .ok otherEntered ∧ Mirrors likeness entered otherEntered ∧
      entered.indent.commentLevel = some level := by
  rcases remarking.follow aligned remark with
    ⟨found, follows⟩ | ⟨outside, comment, youngest, container, -, follows⟩
  all_goals rcases (remarking.mirrored mirrors).follow otherAligned otherRemark with
    ⟨otherFound, otherFollows⟩ | ⟨otherOutside, otherComment, otherYoungest, -, -, otherFollows⟩
  · exact ⟨_, _, follows, otherFollows, mirrors, found⟩
  · rw [Tracker.inComment, mirrors.indent.commentLevel, found] at otherOutside
    cases otherOutside
  · rw [Tracker.inComment, ← mirrors.indent.commentLevel, otherFound] at outside
    cases outside
  · obtain rfl : otherComment = comment := by
      rw [mirrors.current, mirrors.arena.youngest?, youngest] at otherYoungest
      exact (Option.some.inj otherYoungest).symm
    refine ⟨_, _, follows, otherFollows, ?_, rfl⟩
    rw [mirrors.indent.eq_of_outside outside]
    exact mirrors.entered aligned youngest container
      (.inside state.indent.enclosing remark.deep otherRemark.deep)

theorem readText_remark {text : List Char} (solid : text ≠ [])
    (inside : state.inAuthorComment = true) :
    state.readText text = .ok (state.add (Expression.words text true)) := by
  rw [readText, if_neg (by simpa using solid), if_pos inside]

theorem Mirrors.begun {likeness : Likeness} (mirrors : Mirrors likeness state other) :
    Mirrors likeness state.begun other.begun := by
  have noted := mirrors.note 1 state.filter (state.feed.lineno + 1) (other.feed.lineno + 1)
  rw [← mirrors.filter] at noted
  exact noted

/-- Readings that are the same behind a veil read a line of a comment's text side by side, whatever
stands there, if the line is hidden or the same in both. -/
theorem Mirrors.step_remark {hidden : Nat → Bool} {source otherSource otherFirst : List Char}
    {otherRest : List (List Char)} (mirrors : Mirrors (.veiled hidden) state other)
    (aligned : state.Aligned) (otherAligned : other.Aligned) (remarking : Remarking level state)
    (position : state.feed.At source) (otherPosition : other.feed.At otherSource)
    (pending : state.feed.pending = first :: rest)
    (otherPending : other.feed.pending = otherFirst :: otherRest)
    (related : Interchangeable level first otherFirst)
    (hides : first ≠ otherFirst → hidden (state.feed.lineno + 1) = true) :
    ∃ next otherNext, state.step = .ok next ∧ other.step = .ok otherNext ∧
      Mirrors (.veiled hidden) next otherNext ∧ Remarking level next ∧
      next.feed = state.feed.skip 1 ∧ otherNext.feed = other.feed.skip 1 := by
  have begun : state.begun.Aligned := aligned.growth (.note state _ state.filter _)
  have otherBegun : other.begun.Aligned := otherAligned.growth (.note other _ other.filter _)
  have otherClosed := (remarking.mirrored mirrors).closed
  have stamps : other.begun.stampAt other.begun.lineno = state.begun.stampAt state.begun.lineno := by
    rw [mirrors.begun.stampAt, State.begun, State.begun, mirrors.position]
    rfl
  cases related with
  | blank =>
      refine ⟨state.begun.add .blank, other.begun.add .blank, ?_, ?_, ?_, ?_, rfl, rfl⟩
      · exact step_of_unpiped remarking.closed position pending rfl (follow_blank _) rfl
      · exact step_of_unpiped otherClosed otherPosition otherPending rfl (follow_blank _) rfl
      · refine mirrors.begun.addNode begun ?_
        rw [stamps]
        rfl
      · refine ⟨remarking.closed, remarking.inside.imp_right ?_⟩
        rintro ⟨outside, current, comment, youngest, isComment⟩
        have stored := aligned.rooted.stored (Arena.mem_children_of_youngest? youngest)
        refine ⟨outside, current, comment, ?_, ?_⟩
        · exact (begun.rooted.youngest?_append begun.container _).trans youngest
        · exact (Arena.isAuthorComment_congr (Arena.node?_append_of_lt stored _ _)).trans isComment
  | remark remark otherRemark =>
      have beginning : Remarking level state.begun := ⟨remarking.closed, remarking.inside⟩
      obtain ⟨entered, otherEntered, follows, otherFollows, inner, inside⟩ :=
        mirrors.begun.follow_remark begun otherBegun beginning remark otherRemark
      obtain ⟨feed, filter, lineno⟩ := (follow_cases follows).2.frame
      obtain ⟨otherFeed, -, otherLineno⟩ := (follow_cases otherFollows).2.frame
      have innerAligned := begun.follow (follow_cases follows).2
      have innerComment : entered.inAuthorComment = true := by
        rw [← innerAligned.comment, Tracker.inComment, inside]
        rfl
      refine ⟨entered.add (Expression.words (split first).2 true),
        otherEntered.add (Expression.words (split otherFirst).2 true), ?_, ?_, ?_, ?_, feed,
        otherFeed⟩
      · exact step_of_unpiped remarking.closed position pending remark.unpiped follows
          (readText_remark remark.solid innerComment)
      · exact step_of_unpiped otherClosed otherPosition otherPending otherRemark.unpiped otherFollows
          (readText_remark otherRemark.solid (inner.inAuthorComment.trans innerComment))
      · refine inner.addNode innerAligned ?_
        have number : otherEntered.lineno = entered.lineno := by
          rw [otherLineno, lineno, State.begun, State.begun, mirrors.position]
        rw [number, inner.stampAt]
        refine Likeness.veiled_words fun differ => ?_
        have stamped : entered.lineno = state.feed.lineno + 1 := lineno
        change hidden entered.lineno = true
        rw [stamped]
        exact hides fun same => differ (by rw [same])
      · exact ⟨by rw [State.add, State.addNode, filter]; exact remarking.closed, .inl inside⟩

/-- The line of the comment itself leads to where its text is awaited. -/
theorem Dispatches.step_comment {ready entered : State} {source taken words : List Char}
    (dispatches : state.Dispatches taken ready entered) (placed : state.Placed source)
    (aligned : state.Aligned) (pending : state.feed.pending = first :: rest)
    (unpiped : isPiped first = false)
    (comment : (split (taken.filter (· != '\n'))).2 = '-' :: '#' :: words) :
    ∃ next, state.step = .ok next ∧ Remarking (levelOf (taken.filter (· != '\n'))) next ∧
      next.feed = state.feed.skip 1 := by
  have took : state.feed.take state.inFilter = some (first, state.feed.skip 1) := by
    cases state.inFilter <;>
      simp [Feed.take, Feed.nextRaw, Feed.next, pending, unpiped, Feed.skip]
  obtain ⟨rfl, readyFeed⟩ : first = taken ∧ state.feed.skip 1 = ready.feed := by
    have also := opened_feed dispatches.opened
    rw [took] at also
    exact Prod.mk.inj (Option.some.inj also)
  obtain ⟨-, single⟩ := placed.position.unfolded pending
  obtain ⟨tabless, followed⟩ := follow_cases dispatches.follows
  obtain ⟨feed, filter, -⟩ := followed.frame
  have begun : (ready.started first).Aligned :=
    aligned.grows ((opened_grows dispatches.opened).trans (grows_started ready first))
  have inner := begun.follow followed
  have reads : entered.readText ('-' :: '#' :: words) = .ok (entered.add .authorComment) := by
    unfold readText
    rw [dispatches.outside]
    rfl
  have current : entered.indent.current = levelOf (first.filter (· != '\n')) :=
    begun.current_eq followed (by rw [comment]; exact List.cons_ne_nil _ _) dispatches.outside
  refine ⟨entered.add .authorComment, ?_, ⟨?_, .inr ⟨?_, ?_, entered.arena.size, ?_, ?_⟩⟩, ?_⟩
  · rw [step_eq, dispatches.opened]
    dsimp only
    rw [dispatches.closed, if_neg Bool.false_ne_true, readLogical_eq, dispatches.follows]
    dsimp only
    rw [comment, reads, single]
    rfl
  · change entered.filter.isOpen = false
    rw [filter]
    exact dispatches.closed
  · exact inner.comment.trans dispatches.outside
  · exact current
  · exact inner.rooted.youngest?_append inner.container _
  · rw [Arena.isAuthorComment, State.add, State.addNode, Arena.content?]
    dsimp only
    rw [Arena.node?_append_size]
    rfl
  · exact feed.trans readyFeed.symm

end State

/-! ## Whole templates -/

variable {source other : List Char} {filename : Option String} {level : Nat}

/-- Readings that are the same behind a veil come through the text of a comment and are twins behind
it. -/
theorem Reached.twins_behind_remarks {hidden : Nat → Bool} {state otherState : State}
    {body replaced rest : List (List Char)} (reached : Reached source filename state)
    (otherReached : Reached other filename otherState)
    (mirrors : State.Mirrors (.veiled hidden) state otherState)
    (remarking : State.Remarking level state)
    (related : List.Forall₂ (Interchangeable level) body replaced)
    (pending : state.feed.pending = body ++ rest)
    (otherPending : otherState.feed.pending = replaced ++ rest)
    (hides : ∀ lineno, physicalLine? other lineno ≠ physicalLine? source lineno →
      hidden lineno = true) :
    ∃ last otherLast, Reached source filename last ∧ Reached other filename otherLast ∧
      State.Twins (.veiled hidden) last otherLast := by
  induction related generalizing state otherState with
  | nil => exact ⟨state, otherState, reached, otherReached, mirrors, otherPending.trans pending.symm⟩
  | @cons first otherFirst body replaced interchangeable related ih =>
      have position := reached.placed.position
      have otherPosition := otherReached.placed.position
      have differs : first ≠ otherFirst → hidden (state.feed.lineno + 1) = true := by
        intro differ
        obtain ⟨physical, found, rfl⟩ := position.physical pending
        obtain ⟨otherPhysical, otherFound, rfl⟩ := otherPosition.physical otherPending
        refine hides _ fun same => differ ?_
        rw [mirrors.position, same, found] at otherFound
        rw [Option.some.inj otherFound]
      obtain ⟨next, otherNext, steps, otherSteps, mirrored, remarks, feed, otherFeed⟩ :=
        mirrors.step_remark reached.aligned otherReached.aligned remarking position otherPosition
          pending otherPending interchangeable differs
      refine ih (reached.step ?_ steps) (otherReached.step ?_ otherSteps) mirrored remarks ?_ ?_
      · simp [Feed.hasNext, pending]
      · simp [Feed.hasNext, otherPending]
      · rw [feed, Feed.skip, pending]
        rfl
      · rw [otherFeed, Feed.skip, otherPending]
        rfl

/-- The sources differ in this line. -/
def changed (source other : List Char) (lineno : Nat) : Bool :=
  physicalLine? other lineno != physicalLine? source lineno

theorem isPiped_of_not_suffix {line : List Char} (unpiped : ¬ [' ', '|'] <:+ line) :
    isPiped line = false := by
  rw [Bool.eq_false_iff]
  intro piped
  obtain ⟨before, rfl⟩ := isPiped_eq piped
  exact unpiped ⟨before, rfl⟩

/-- A line that is not blank, is indented by more than the comment, has no tab there and does not end
in a pipe is text of the comment. -/
theorem remark_trimEnd {physical : List Char} (visible : trimEnd physical ≠ [])
    (deep : level < leadingBlanks physical) (tabless : '\t' ∉ (split (trimEnd physical)).1)
    (unpiped : ¬ [' ', '|'] <:+ trimEnd physical) : Remark level (trimEnd physical) := by
  have solid : (split (trimEnd physical)).2 ≠ [] := by
    intro gone
    refine trimStart_trimEnd_ne_nil visible (List.dropWhile_eq_nil_iff.2 fun c member => ?_)
    exact isSpace_of_isIndent (List.dropWhile_eq_nil_iff.1 gone c member)
  refine ⟨solid, tabless, ?_, isPiped_of_not_suffix unpiped⟩
  rw [← leadingBlanks_eq_levelOf solid tabless]
  exact deep

/-- Lines that may stand in each other's place below a comment. -/
theorem interchangeable_trimEnd {text otherText : List Char}
    (below : trimEnd text = [] ∨ level < leadingBlanks text)
    (replaces : otherText = text ∨
      trimEnd text ≠ [] ∧ trimEnd otherText ≠ [] ∧ level < leadingBlanks otherText)
    (clean : '\t' ∉ (split (trimEnd text)).1 ∧ ¬ [' ', '|'] <:+ trimEnd text)
    (otherClean : '\t' ∉ (split (trimEnd otherText)).1 ∧ ¬ [' ', '|'] <:+ trimEnd otherText) :
    Interchangeable level (trimEnd text) (trimEnd otherText) := by
  by_cases blank : trimEnd text = []
  · rcases replaces with rfl | ⟨visible, -⟩
    · rw [blank]
      exact .blank
    · exact absurd blank visible
  · have remark := remark_trimEnd blank (below.resolve_left blank) clean.1 clean.2
    rcases replaces with rfl | ⟨-, visible, deep⟩
    · exact .remark remark remark
    · exact .remark remark (remark_trimEnd visible deep otherClean.1 otherClean.2)

theorem forall₂_interchangeable {body replaced : List (List Char)}
    (below : ∀ text ∈ body, trimEnd text = [] ∨ level < leadingBlanks text)
    (replaces : List.Forall₂ (fun text otherText => otherText = text ∨
      trimEnd text ≠ [] ∧ trimEnd otherText ≠ [] ∧ level < leadingBlanks otherText) body replaced)
    (clean : ∀ text ∈ body, '\t' ∉ (split (trimEnd text)).1 ∧ ¬ [' ', '|'] <:+ trimEnd text)
    (otherClean : ∀ text ∈ replaced,
      '\t' ∉ (split (trimEnd text)).1 ∧ ¬ [' ', '|'] <:+ trimEnd text) :
    List.Forall₂ (Interchangeable level) (body.map trimEnd) (replaced.map trimEnd) := by
  induction replaces with
  | nil => exact .nil
  | cons pair _ ih =>
      rw [List.forall_mem_cons] at below clean otherClean
      exact .cons (interchangeable_trimEnd below.1 pair clean.1 otherClean.1)
        (ih below.2 clean.2 otherClean.2)

/-- Put other lines in the place of lines below a comment for the author, where both are indented by
more than the comment and not blank: the template is refused for the same reason, or accepted with the
same tree but for the words of the texts on these lines. No line may have a tab in its indentation or
end in ` |`. -/
theorem parse_veil_eq {comment line words : List Char}
    {front body replaced after : List (List Char)}
    (dispatched : Dispatches source filename (front.length + 1) line)
    (isComment : (split line).2 = '-' :: '#' :: words)
    (unpiped : ¬ [' ', '|'] <:+ trimEnd comment)
    (found : lines source = front ++ comment :: (body ++ after))
    (below : ∀ text ∈ body, trimEnd text = [] ∨ levelOf line < leadingBlanks text)
    (replaces : List.Forall₂ (fun text otherText => otherText = text ∨
      trimEnd text ≠ [] ∧ trimEnd otherText ≠ [] ∧ levelOf line < leadingBlanks otherText)
      body replaced)
    (clean : ∀ text ∈ body ++ replaced, '\t' ∉ (split (trimEnd text)).1 ∧
      ¬ [' ', '|'] <:+ trimEnd text)
    (rewritten : lines other = front ++ comment :: (replaced ++ after)) :
    (parse other filename).map (Arena.veil (changed source other)) =
      (parse source filename).map (Arena.veil (changed source other)) := by
  obtain ⟨state, taken, ready, entered, reached, number, rfl, dispatched⟩ := dispatched
  have number : state.feed.lineno = front.length := by omega
  have pending := reached.pending_eq found number
  rw [List.map_cons] at pending
  obtain ⟨next, steps, remarking, feed⟩ := dispatched.step_comment reached.placed reached.aligned
    pending (isPiped_of_not_suffix unpiped) isComment
  have nextReached := reached.step (by simp [Feed.hasNext, pending]) steps
  have nextNumber : next.feed.lineno = (front ++ [comment]).length := by
    rw [feed, Feed.skip, number, List.length_append]
    rfl
  have nextFound : lines source = front ++ [comment] ++ (body ++ after) := by
    rw [found, List.append_assoc, List.singleton_append]
  have otherFound : lines other = front ++ [comment] ++ (replaced ++ after) := by
    rw [rewritten, List.append_assoc, List.singleton_append]
  -- below the comment the lines of the two sources correspond
  have related : List.Forall₂ (Interchangeable (levelOf (taken.filter (· != '\n'))))
      (body.map trimEnd) (replaced.map trimEnd) :=
    forall₂_interchangeable below replaces
      (fun text listed => clean text (List.mem_append_left _ listed))
      fun text listed => clean text (List.mem_append_right _ listed)
  have unpipedNext : ((body ++ after).head?.map trimEnd).any isPiped = false →
      ((replaced ++ after).head?.map trimEnd).any isPiped = false := by
    cases replaces with
    | nil => exact id
    | cons pair others => exact fun _ => isPiped_of_not_suffix (clean _ (by simp)).2
  have ends : body ++ after = [] → replaced ++ after = [] := by
    cases replaces with
    | nil => exact id
    | cons pair others => exact fun gone => by cases gone
  obtain ⟨lineno, otherReached⟩ :=
    nextReached.counterpart nextFound otherFound nextNumber unpipedNext ends
  have mirrors : State.Mirrors (.veiled (changed source other)) next { next with
      feed := { next.feed with pending := (replaced ++ after).map trimEnd }, lineno } :=
    ⟨.refl (fun _ => rfl) next.arena, rfl, rfl, fun _ => rfl, rfl, .same _,
      (Collector.restamp_id next.filter).symm⟩
  obtain ⟨last, otherLast, lastReached, otherLastReached, twins⟩ :=
    nextReached.twins_behind_remarks otherReached mirrors remarking related
      ((nextReached.pending_eq nextFound nextNumber).trans List.map_append) List.map_append
      fun lineno differs => by simpa [changed] using differs
  rcases parse_twins lastReached otherLastReached twins with
    ⟨arena, image, accepted, otherAccepted, mirrored⟩ | ⟨error, rejected, otherRejected⟩
  · rw [accepted, otherAccepted]
    exact congrArg Except.ok mirrored.veil_eq
  · rw [rejected, otherRejected]

/-- The comment on line 2 has a blank line and two others below it, the second less deep. A filter and
code that ends in a comma take the place of these, and their depths are the other way round. -/
theorem parse_veil_eq_markup :
    Dispatches "%p\n  -# a\n\n      b,\n    %q(\n  c".toList none 2 "  -# a".toList ∧
      (parse "%p\n  -# a\n\n    :css\n       = d,\n  c".toList).map (Arena.veil
          (changed "%p\n  -# a\n\n      b,\n    %q(\n  c".toList
            "%p\n  -# a\n\n    :css\n       = d,\n  c".toList)) =
        (parse "%p\n  -# a\n\n      b,\n    %q(\n  c".toList).map (Arena.veil
          (changed "%p\n  -# a\n\n      b,\n    %q(\n  c".toList
            "%p\n  -# a\n\n    :css\n       = d,\n  c".toList)) := by
  have dispatched : Dispatches "%p\n  -# a\n\n      b,\n    %q(\n  c".toList none
      (["%p".toList].length + 1) "  -# a".toList :=
    ⟨_, _, _, _, .step .start rfl rfl, rfl, rfl, ⟨rfl, rfl, rfl, rfl⟩⟩
  have found : lines "%p\n  -# a\n\n      b,\n    %q(\n  c".toList =
      ["%p".toList] ++ "  -# a".toList ::
        (["".toList, "      b,".toList, "    %q(".toList] ++ ["  c".toList]) := rfl
  have rewritten : lines "%p\n  -# a\n\n    :css\n       = d,\n  c".toList =
      ["%p".toList] ++ "  -# a".toList ::
        (["".toList, "    :css".toList, "       = d,".toList] ++ ["  c".toList]) := rfl
  refine ⟨dispatched, parse_veil_eq dispatched rfl (by decide) found (by decide) ?_ (by decide)
    rewritten⟩
  exact .cons (.inl rfl) (.cons (.inr (by decide)) (.cons (.inr (by decide)) .nil))

end Template

end HamlTree
