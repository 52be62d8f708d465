import HamlTree.Proofs.CheckedReaders
import HamlTree.Proofs.Dating

/-!
# Definedness -- reading a template meets no undefined operation

The reading of a whole template, written once more with every partial operation checked, as the
readers are in `CheckedReaders`: differences of line numbers and of levels, slices, levels looked up
by their index, nodes looked up by their number, and what has to hold when a container is left and
when the reading ends. `parse?` gives `none` as soon as one of them fails.

The main statement is that it never does, and that otherwise nothing changes: `parse?` is `parse`,
for every source (`parse?_eq`). An operation is defined because of what is known of every state that
the reading comes to: levels ascend from 0 and there are as many as containers
(`State.Aligned`), containers and children are stored, the number of lines taken counts those folded
into one (`Feed.Taken`) and those of the filter being read (`State.Dated`).
-/

set_option autoImplicit false

namespace HamlTree

open Text

/-! ## Levels -/

namespace Indentation

/-- Close levels above `level`, the innermost first, however many there are: those left, and how many
closed. -/
def popAbove (level : Nat) : List Nat → List Nat × Nat
  | [] => ([], 0)
  | top :: others =>
    if level < top then
      let (left, closed) := popAbove level others
      (left, closed + 1)
    else (top :: others, 0)

/-- Close all levels on a stack of levels but the last, with an event for each. -/
def popAll : List Nat → List Nat × List Event
  | _ :: outer :: others =>
    let (left, events) := popAll (outer :: others)
    (left, .leave 0 :: events)
  | levels => (levels, [])

theorem popAll_eq (current : Nat) (enclosing : List Nat) :
    popAll (current :: enclosing) =
      ([(closeAll current enclosing).1], (closeAll current enclosing).2) := by
  induction enclosing generalizing current with
  | nil => rfl
  | cons outer others ih => rw [popAll, closeAll, ih]

/-- The outermost level is 0 and stays. -/
theorem popAbove_eq (level : Nat) {current : Nat} {enclosing : List Nat}
    (base : (current :: enclosing).getLast? = some 0) :
    popAbove level (current :: enclosing) =
      ((closeAbove level current enclosing).1 :: (closeAbove level current enclosing).2.1,
        (closeAbove level current enclosing).2.2) := by
  induction enclosing generalizing current with
  | nil =>
      obtain rfl : current = 0 := by simpa using base
      simp [popAbove, closeAbove]
  | cons outer others ih =>
      rw [List.getLast?_cons_cons] at base
      rw [popAbove, closeAbove]
      by_cases deeper : level < current
      · simp [deeper, ih base]
      · simp [deeper]

namespace Tracker

variable {tracker : Tracker}

/-- How many levels are open besides the outermost. -/
def depth? (tracker : Tracker) : Option Nat :=
  sub? tracker.levels.length 1

/-- Step back to a shallower level. A level has to stay open. -/
def leave? (tracker : Tracker) (level : Nat) : Option (Tracker × Except Fault (List Event)) :=
  match popAbove level (tracker.current :: tracker.enclosing) with
  | ([], _) => none
  | (kept :: around, closed) =>
    let after : Tracker := ⟨kept, around, none⟩
    if level = kept then some (after, .ok (List.replicate closed (.leave level)))
    else some (after, .error (.unknownLevel level after.levels))

/-- Compare the level of a line with content. -/
def track? (tracker : Tracker) (level : Nat) : Option (Tracker × Except Fault (List Event)) :=
  if level < tracker.current then
    match tracker.commentLevel with
    | some comment => if comment < level then some (tracker, .ok []) else tracker.leave? level
    | none => tracker.leave? level
  else some (tracker.track level)

/-- Take a line apart and follow its indentation. -/
def process? (tracker : Tracker) (line : List Char) :
    Option (Tracker × Except Fault Processed) := do
  let (indent, text) ← split? line
  if indent.contains '\t' then return (tracker, .error .hardTab)
  else if text.isEmpty then return (tracker, .ok ⟨text, indent, []⟩)
  else
    match ← tracker.track? (byteLength indent) with
    | (after, .ok events) => return (after, .ok ⟨text, indent, events⟩)
    | (after, .error fault) => return (after, .error fault)

/-- Close every level at the end of the template. The outermost one has to stay, and as many have to
close as are open besides it. -/
def finish? (tracker : Tracker) : Option (Tracker × List Event) := do
  let depth ← tracker.depth?
  match popAll (tracker.current :: tracker.enclosing) with
  | ([outermost], events) =>
    if events.length = depth then return (⟨outermost, [], none⟩, events) else none
  | _ => none

/-- From now on the innermost level is the free text of a comment one level further out. -/
def enterComment? (tracker : Tracker) : Option Tracker :=
  match sub? tracker.levels.length 2 with
  | none => some { tracker with commentLevel := none }
  | some place => do
    let comment ← tracker.levels[place]?
    return { tracker with commentLevel := some comment }

/-- The innermost step is as wide as the one around it. -/
def checkStep? (tracker : Tracker) : Option (Except Fault Unit) :=
  let levels := tracker.levels
  if 3 ≤ levels.length then do
    let outermost ← levels[← sub? levels.length 3]?
    let outer ← levels[← sub? levels.length 2]?
    let inner ← levels[← sub? levels.length 1]?
    let expected ← sub? outer outermost
    let found ← sub? inner outer
    return if expected = found then .ok () else .error (.unevenStep found expected)
  else some (.ok ())

theorem depth?_eq (tracker : Tracker) : tracker.depth? = some tracker.depth := by
  simp [depth?, levels, sub?, depth]

theorem finish?_eq (tracker : Tracker) : tracker.finish? = some tracker.finish := by
  have count : (closeAll tracker.current tracker.enclosing).2.length = tracker.depth := by
    rw [(closeAll_eq tracker.current tracker.enclosing).2, List.length_replicate, depth]
  simp [finish?, depth?_eq, popAll_eq, count, finish]

theorem enterComment?_eq (tracker : Tracker) :
    tracker.enterComment? = some tracker.enterComment := by
  unfold enterComment? enterComment levels
  cases tracker.enclosing with
  | nil => simp [sub?]
  | cons outer around => simp [sub?]

theorem Sound.leave?_eq (sound : tracker.Sound) (level : Nat) :
    tracker.leave? level = some (tracker.leave level) := by
  unfold leave? leave
  rw [popAbove_eq level sound.base]
  dsimp only
  split <;> rfl

theorem Sound.track?_eq (sound : tracker.Sound) (level : Nat) :
    tracker.track? level = some (tracker.track level) := by
  unfold track?
  split
  · rename_i lower
    have notHigher : ¬tracker.current < level := by omega
    unfold track
    simp only [if_neg notHigher, if_pos lower, sound.leave?_eq]
    cases tracker.commentLevel with
    | none => rfl
    | some comment => by_cases inside : comment < level <;> simp [inside]
  · rfl

theorem Sound.process?_eq (sound : tracker.Sound) (line : List Char) :
    tracker.process? line = some (tracker.process line) := by
  unfold process? process
  simp only [split?_eq, byteLength_indent, sound.track?_eq, Option.bind_eq_bind, Option.bind_some]
  by_cases tab : (split line).1.contains '\t' = true
  · simp only [if_pos tab, Option.pure_def]
  by_cases blank : (split line).2.isEmpty = true
  · simp only [if_neg tab, if_pos blank, Option.pure_def]
  · simp only [if_neg tab, if_neg blank]
    rcases tracker.track (split line).1.length with ⟨after, fault | events⟩ <;> rfl

theorem Sound.checkStep?_eq (sound : tracker.Sound) :
    tracker.checkStep? = some tracker.checkStep := by
  have steep := sound.steep
  unfold checkStep? checkStep levels
  generalize tracker.enclosing = enclosing at steep ⊢
  rcases enclosing with _ | ⟨outer, _ | ⟨outermost, around⟩⟩
  · simp
  · simp
  · obtain ⟨below, others⟩ := List.pairwise_cons.1 steep
    have inner : outer ≤ tracker.current := Nat.le_of_lt (below outer List.mem_cons_self)
    have outer : outermost ≤ outer :=
      Nat.le_of_lt ((List.pairwise_cons.1 others).1 outermost List.mem_cons_self)
    simp [sub?, inner, outer]

end Tracker

end Indentation

/-! ## Nodes -/

namespace Arena

variable {arena : Arena} {id : Nat}

/-- Store a node, whose number is then the last one in use, and make it the youngest child of a node
that is stored. -/
def append? (arena : Arena) (parent : NodeId) (node : Node) : Option (NodeId × Arena) := do
  let stored := (arena.push node).2
  let id ← sub? stored.size 1
  let _ ← stored.content? parent
  return (id, stored.attach parent id)

/-- Take the youngest child off a node's list as long as it is blank, at most `fuel` times. Both the
node and the child are looked up each time. -/
def takeBlanks? (id : NodeId) : Nat → Arena → List NodeId → Option (List NodeId × Arena)
  | 0, _, _ => none
  | fuel + 1, arena, taken => do
    let _ ← arena.content? id
    match arena.lastChild? id with
    | none => return (taken, arena)
    | some last =>
      let content ← arena.content? last
      if content.isBlank then takeBlanks? id fuel (arena.popChild id).2 (last :: taken)
      else return (taken, arena)

/-- Take the empty lines at the end of a node's list off it, and list them in order. -/
def takeTrailingBlanks? (arena : Arena) (id : NodeId) : Option (List NodeId × Arena) :=
  takeBlanks? id ((arena.children id).length + 1) arena []

theorem append?_eq (stored : id < arena.size) (node : Node) :
    arena.append? id node = some (arena.append id node) := by
  have size : (arena.push node).2.size = arena.size + 1 := by simp [push, Arena.size]
  obtain ⟨content, found⟩ : ∃ content, (arena.push node).2.content? id = some content :=
    exists_content? (by omega)
  rw [append?, size, sub?_add, found]
  rfl

theorem updateChildren_children (container : arena.isContainer id = true) :
    (arena.updateChildren id fun _ => arena.children id) = arena := by
  refine ext_of_nodes (fun other => node?_updateChildren ..) fun other => ?_
  rw [children_updateChildren container]
  split
  · rename_i same
    rw [same]
  · rfl

theorem updateChildren_updateChildren (container : arena.isContainer id = true)
    (change : List NodeId → List NodeId) (final : List NodeId) :
    ((arena.updateChildren id change).updateChildren id fun _ => final) =
      arena.updateChildren id fun _ => final := by
  have still : (arena.updateChildren id change).isContainer id = true :=
    (isContainer_congr (node?_updateChildren ..)).trans container
  refine ext_of_nodes (fun other => by simp) fun other => ?_
  rw [children_updateChildren still, children_updateChildren container,
    children_updateChildren container]
  split <;> rfl

section Youngest

variable {before : List Nat} {last : Nat}

/-- A youngest child that is not blank has no blank nodes after it. -/
theorem kept_eq_of_solid (list : arena.children id = before ++ [last])
    (solid : arena.isBlank last = false) :
    arena.keptChildren id = arena.children id ∧ arena.trailingBlanks id = [] := by
  have all : arena.keptChildren id = arena.children id := by
    rw [keptChildren, dropEndWhile_eq_rdropWhile, list, List.rdropWhile_concat, solid]
    rfl
  have whole := arena.kept_append_trailing id
  rw [all] at whole
  exact ⟨all, List.append_right_eq_self.1 whole⟩

theorem children_popChild (container : arena.isContainer id = true)
    (list : arena.children id = before ++ [last]) :
    (arena.popChild id).2.children id = before := by
  rw [popChild, children_updateChildren container, if_pos rfl, list, List.dropLast_concat]

/-- A blank youngest child is the last of the blank nodes, and the rest stays as it is without it. -/
theorem trailing_popChild (container : arena.isContainer id = true)
    (list : arena.children id = before ++ [last]) (blank : arena.isBlank last = true) :
    (arena.popChild id).2.keptChildren id = arena.keptChildren id ∧
      (arena.popChild id).2.trailingBlanks id ++ [last] = arena.trailingBlanks id := by
  have shorter := children_popChild container list
  have kept : (arena.popChild id).2.keptChildren id = arena.keptChildren id := by
    rw [keptChildren, keptChildren, dropEndWhile_eq_rdropWhile, dropEndWhile_eq_rdropWhile, shorter,
      list, List.rdropWhile_concat, blank, if_pos rfl]
    exact rdropWhile_congr fun other _ => isBlank_congr (node?_updateChildren ..)
  refine ⟨kept, @List.append_cancel_left _ (arena.keptChildren id) _ _ ?_⟩
  rw [kept_append_trailing, ← List.append_assoc, ← kept, kept_append_trailing, shorter, list]

end Youngest

/-- Blank nodes taken off one by one are those at the end of the list. -/
theorem takeBlanks?_eq {fuel : Nat} (container : arena.isContainer id = true)
    (stored : ∀ child ∈ arena.children id, child < arena.size)
    (enough : (arena.children id).length < fuel) (taken : List NodeId) :
    takeBlanks? id fuel arena taken =
      some (arena.trailingBlanks id ++ taken,
        arena.updateChildren id fun _ => arena.keptChildren id) := by
  induction fuel generalizing arena taken with
  | zero => omega
  | succ fuel ih =>
      obtain ⟨content, found⟩ := exists_content? (lt_size_of_isContainer container)
      cases youngest : arena.lastChild? id with
      | none =>
          have childless : arena.children id = [] := List.getLast?_eq_none_iff.1 youngest
          have same := updateChildren_children container
          rw [childless] at same
          simp [takeBlanks?, found, youngest, trailingBlanks, keptChildren, dropEndWhile, childless,
            same]
      | some last =>
          obtain ⟨before, list⟩ := List.getLast?_eq_some_iff.1 youngest
          obtain ⟨kind, lastFound⟩ := exists_content? (stored last (by simp [list]))
          have blank : arena.isBlank last = kind.isBlank := by simp [isBlank, lastFound]
          cases kindBlank : kind.isBlank with
          | false =>
              obtain ⟨kept, none⟩ := kept_eq_of_solid list (blank.trans kindBlank)
              simp [takeBlanks?, found, youngest, lastFound, kindBlank, kept, none,
                updateChildren_children container]
          | true =>
              obtain ⟨kept, trailing⟩ := trailing_popChild container list (blank.trans kindBlank)
              have shorter := children_popChild container list
              have still : (arena.popChild id).2.isContainer id = true :=
                (isContainer_congr (node?_updateChildren ..)).trans container
              have remaining : ∀ child ∈ (arena.popChild id).2.children id,
                  child < (arena.popChild id).2.size := by
                intro child member
                rw [shorter] at member
                simpa [popChild] using stored child (by simp [list, member])
              have fewer : ((arena.popChild id).2.children id).length < fuel := by
                rw [list, List.length_append, List.length_singleton] at enough
                rw [shorter]
                omega
              have onward := ih still remaining fewer (last :: taken)
              rw [kept, List.append_cons, trailing] at onward
              simp only [takeBlanks?, found, youngest, lastFound, kindBlank, Option.bind_eq_bind,
                Option.bind_some, if_true, onward]
              exact congrArg (fun after => some (_, after))
                (updateChildren_updateChildren container List.dropLast _)

theorem takeTrailingBlanks?_eq (container : arena.isContainer id = true)
    (stored : ∀ child ∈ arena.children id, child < arena.size) :
    arena.takeTrailingBlanks? id = some (arena.takeTrailingBlanks id) := by
  rw [takeTrailingBlanks?, takeBlanks?_eq container stored (Nat.lt_succ_self _), List.append_nil]
  rfl

end Arena

/-! ## The reading -/

namespace Template

open Indentation FilterBlock

namespace State

/-- The current container is a comment for the author. -/
def inAuthorComment? (state : State) : Option Bool :=
  (state.arena.content? state.current).map Content.isAuthorComment

/-- Make a node the youngest child of the current container. -/
def addNode? (state : State) (node : Node) : Option State := do
  let (_, arena) ← state.arena.append? state.current node
  return { state with arena }

/-- Add a node for the line being read. -/
def add? (state : State) (content : Content) : Option State :=
  state.addNode? ⟨state.stampAt state.lineno, content⟩

/-- Add blank nodes for these lines. -/
def addBlanks? : List Nat → State → Option State
  | [], state => some state
  | lineno :: rest, state => do
    let next ← state.addNode? ⟨state.stampAt lineno, .blank⟩
    addBlanks? rest next

/-- Make the youngest child of the current container the container. -/
def enter? (state : State) : Option (Except Fault State) := do
  let (blanks, arena) ← state.arena.takeTrailingBlanks? state.current
  let _ ← arena.content? state.current
  match arena.lastChild? state.current with
  | none => return .error .indentedStart
  | some target =>
    let content ← arena.content? target
    match nestingFault? content with
    | some fault => return .error fault
    | none =>
      let entered := { state with
        arena := arena.prependChildren target blanks
        current := target
        stack := state.current :: state.stack }
      if ← entered.inAuthorComment? then
        let indent ← entered.indent.enterComment?
        return .ok { entered with indent }
      else
        match ← entered.indent.checkStep? with
        | .ok () => return .ok entered
        | .error fault => return .error fault

/-- Go back to the container around the current one, which there has to be. -/
def leave? (state : State) : Option State :=
  match state.stack with
  | [] => none
  | parent :: rest => some { state with current := parent, stack := rest }

/-- Follow a change of depth. -/
def applyEvent? (state : State) : Event → Option (Except Fault State)
  | .enter _ => state.enter?
  | .leave _ => state.leave?.map .ok

/-- Follow several changes of depth. -/
def applyAll? : List Event → State → Option (Except Fault State)
  | [], state => some (.ok state)
  | event :: rest, state => do
    match ← state.applyEvent? event with
    | .ok next => applyAll? rest next
    | .error fault => return .error fault

/-- Read a line's text into the current container. -/
def readText? (state : State) (text : List Char) : Option (Except Fault State) := do
  if text.isEmpty then return .ok (← state.add? .blank)
  else if ← state.inAuthorComment? then return .ok (← state.add? (Expression.words text true))
  else
    match ← Line.read? (state.stampAt state.lineno) text state.feed with
    | (.error fault, _) => return .error fault
    | (.ok meaning, feed) =>
      let after := { state with feed }
      match meaning with
      | .node content => return .ok (← after.add? content)
      | .filter name => return .ok { after with filter := .start name (after.stampAt after.lineno) }
      | .nothing => return .ok after

/-- Follow a line's indentation, then read its text. -/
def readLine? (state : State) (line : List Char) : Option (Except Fault State) := do
  match ← state.indent.process? line with
  | (_, .error fault) => return .error fault
  | (indent, .ok processed) =>
    match ← applyAll? processed.events { state with indent } with
    | .error fault => return .error fault
    | .ok entered => entered.readText? processed.text

/-- Read a logical line that was just taken, and account for the lines folded into it. -/
def readLogical? (state : State) (line : List Char) : Option (Except SyntaxError State) := do
  let folded := line.count '\n'
  let lineno ← sub? state.feed.lineno folded
  let started := { state with lineno }
  match ← started.readLine? (line.filter (· != '\n')) with
  | .error fault => return .error ⟨fault, lineno, none⟩
  | .ok after => return .ok (← addBlanks? (List.range' (lineno + 1) folded) after)

/-- Add the node of a finished filter, and blank nodes for the blank lines at its end. -/
def addFilter? (state : State) (block : Finished) (last : Nat) : Option State := do
  let added ← state.addNode? block.node
  let first ← sub? (last + 1) block.trailingBlanks
  addBlanks? (List.range' first block.trailingBlanks) added

/-- Give a raw line to the filter being read. -/
def collect? (state : State) (line : List Char) : Option State := do
  let lineno := state.feed.lineno
  match ← state.filter.append? line state.indent.current with
  | (filter, none) => return { state with filter, lineno }
  | (filter, some block) =>
    let last ← sub? lineno 1
    let closed := { state with filter, lineno }
    closed.addFilter? block last

/-- The line that the next step takes, and the state that reads it unless a filter is still open
then. -/
def opened? (state : State) : Option (Option (List Char × State)) := do
  let inFilter := !(← state.inAuthorComment?) && state.filter.isOpen
  match ← state.feed.take? inFilter with
  | none => return none
  | some (line, feed) =>
    let taken := { state with feed }
    if inFilter then return some (line, ← taken.collect? line) else return some (line, taken)

/-- Read one logical line, or one raw line of a filter. -/
def step? (state : State) : Option (Except SyntaxError State) := do
  match ← state.opened? with
  | none => return .ok state
  | some (line, ready) =>
    if ready.filter.isOpen then return .ok ready else ready.readLogical? line

/-- Read lines until none is left, which `fuel` steps have to be enough for. -/
def runAux? : Nat → State → Option (Except SyntaxError State)
  | 0, state => if state.feed.hasNext then none else some (.ok state)
  | fuel + 1, state =>
    if state.feed.hasNext then do
      match ← state.step? with
      | .ok next => runAux? fuel next
      | .error error => return .error error
    else some (.ok state)

/-- Read all lines. -/
def run? (state : State) : Option (Except SyntaxError State) :=
  runAux? state.feed.pending.length state

/-- Finish the filter that the template ends in. -/
def flushed? (state : State) : Option State :=
  match state.filter.finish with
  | (filter, none) => some { state with filter }
  | (filter, some block) => { state with filter }.addFilter? block state.feed.lineno

/-- Finish the filter that the template ends in, and close all levels. All containers but the root
have to be left then. -/
def finish? (state : State) : Option (Except SyntaxError State) := do
  let flushed ← state.flushed?
  let (indent, events) ← flushed.indent.finish?
  match ← applyAll? events { flushed with indent } with
  | .error fault => return .error ⟨fault, flushed.lineno, none⟩
  | .ok final =>
    if final.stack = [] ∧ final.current = Arena.root then return .ok final else none

end State

/-- The tree of a template, or the first thing wrong with it; `none` if the way there has an operation
that is not defined. -/
def parse? (source : List Char) (filename : Option String := none) :
    Option (Except SyntaxError Arena) := do
  match ← (State.ofSource source filename).run? with
  | .error error => return .error (error.withFilename filename)
  | .ok last =>
    match ← last.finish? with
    | .error error => return .error (error.withFilename filename)
    | .ok final => return .ok final.arena

namespace State

variable {state : State}

/-! ## Changes of depth -/

/-- The children of a container can be looked up, and so can the levels that a step is compared
with. -/
theorem enter?_eq (container : state.arena.isContainer state.current = true)
    (stored : ∀ child ∈ state.arena.children state.current, child < state.arena.size)
    (sound : state.indent.Sound) : state.enter? = some state.enter := by
  have sameNode : ∀ id, (state.arena.takeTrailingBlanks state.current).2.content? id =
      state.arena.content? id := fun id => Arena.content?_congr (Arena.node?_updateChildren ..)
  have listed : ∀ target, (state.arena.takeTrailingBlanks state.current).2.lastChild?
      state.current = some target → target ∈ state.arena.children state.current := by
    intro target youngest
    rw [Arena.takeTrailingBlanks_eq, Arena.lastChild?, Arena.children_updateChildren container,
      if_pos rfl] at youngest
    exact Arena.mem_children_of_youngest? youngest
  unfold enter? enter
  rw [Arena.takeTrailingBlanks?_eq container stored]
  generalize state.arena.takeTrailingBlanks state.current = cleared at sameNode listed
  obtain ⟨content, found⟩ := Arena.exists_content? (Arena.lt_size_of_isContainer container)
  simp only [Option.bind_eq_bind, Option.bind_some, sameNode, found]
  cases youngest : cleared.2.lastChild? state.current with
  | none => rfl
  | some target =>
      obtain ⟨kind, kindFound⟩ := Arena.exists_content? (stored target (listed target youngest))
      simp only [kindFound, Option.bind_some]
      cases nestingFault? kind with
      | some fault => rfl
      | none =>
          have same : (cleared.2.prependChildren target cleared.1).content? target = some kind := by
            rw [← kindFound, ← sameNode]
            exact Arena.content?_congr (Arena.node?_updateChildren ..)
          simp only [inAuthorComment?, inAuthorComment, Arena.isAuthorComment, same, Option.map_some,
            Option.any_some, Option.bind_some, Tracker.enterComment?_eq, sound.checkStep?_eq]
          cases kind.isAuthorComment with
          | true => rfl
          | false => cases state.indent.checkStep <;> rfl

/-- Containers that were entered can be left. -/
theorem applyAll?_leaves {count level : Nat} (fits : count ≤ state.stack.length) :
    applyAll? (List.replicate count (.leave level)) state =
      some (applyAll (List.replicate count (.leave level)) state) := by
  induction count generalizing state with
  | zero => rfl
  | succ count ih =>
      cases around : state.stack with
      | nil => simp [around] at fits
      | cons parent rest =>
          have leaves : state.leave? = some state.leave := by simp [leave?, leave, around]
          have fewer : count ≤ state.leave.stack.length := by
            simpa [leave, around] using fits
          simp [List.replicate_succ, applyAll?, applyEvent?, leaves, applyAll, apply, ih fewer]

namespace Aligned

theorem current_lt (aligned : state.Aligned) : state.current < state.arena.size :=
  aligned.lt_size List.mem_cons_self

theorem inAuthorComment?_eq (aligned : state.Aligned) :
    state.inAuthorComment? = some state.inAuthorComment := by
  obtain ⟨content, found⟩ := Arena.exists_content? aligned.current_lt
  simp [inAuthorComment?, inAuthorComment, Arena.isAuthorComment, found]

theorem addNode?_eq (aligned : state.Aligned) (node : Node) :
    state.addNode? node = some (state.addNode node) := by
  rw [addNode?, Arena.append?_eq aligned.current_lt]
  rfl

theorem addBlanks?_eq (aligned : state.Aligned) (linenos : List Nat) :
    addBlanks? linenos state = some (state.addBlanks linenos) := by
  induction linenos generalizing state with
  | nil => rfl
  | cons lineno rest ih =>
      rw [addBlanks?, aligned.addNode?_eq, addBlanks_cons]
      exact ih (aligned.addNode _)

theorem addFilter?_eq (aligned : state.Aligned) {block : Finished} {last : Nat}
    (fits : block.trailingBlanks ≤ last + 1) :
    state.addFilter? block last = some (state.addFilter block last) := by
  rw [addFilter?, aligned.addNode?_eq, sub?_eq fits]
  exact (aligned.addNode _).addBlanks?_eq _

/-! ## One line -/

/-- The changes of depth that a line asks for can be made. -/
theorem applyAll?_eq (aligned : state.Aligned) {line : List Char} {indent : Tracker}
    {processed : Processed}
    (processes : state.indent.process line = (indent, .ok processed)) :
    applyAll? processed.events { state with indent } =
      some (applyAll processed.events { state with indent }) := by
  obtain ⟨-, -, response⟩ := Tracker.process_response processes
  generalize processed.events = events at response
  cases response with
  | stay why => rfl
  | enter solid higher outside =>
      have enters := @enter?_eq { state with indent := state.indent.deeper (levelOf line) }
        aligned.container (fun child => aligned.rooted.stored)
        (aligned.sound.deeper higher outside)
      simp only [applyAll?, applyEvent?, enters, applyAll, State.apply, Option.bind_eq_bind,
        Option.bind_some]
      cases { state with indent := state.indent.deeper (levelOf line) }.enter <;> rfl
  | leave solid lower outside closes =>
      exact applyAll?_leaves (aligned.depth ▸ (closeAbove_spec closes).1)

theorem readText?_eq (aligned : state.Aligned) (text : List Char) :
    state.readText? text = some (state.readText text) := by
  unfold readText? readText
  by_cases gone : text.isEmpty = true
  · simp [gone, add?, add, aligned.addNode?_eq]
  by_cases inside : state.inAuthorComment = true
  · simp [gone, inside, aligned.inAuthorComment?_eq, add?, add, aligned.addNode?_eq]
  simp only [if_neg gone, if_neg inside, aligned.inAuthorComment?_eq, Line.read?_eq,
    Option.bind_eq_bind, Option.bind_some]
  rcases Line.read (state.stampAt state.lineno) text state.feed with ⟨fault | meaning, feed⟩
  · rfl
  cases meaning with
  | node content =>
      have moved : { state with feed }.Aligned :=
        aligned.growth (.note state feed state.filter state.lineno)
      simp [add?, add, moved.addNode?_eq]
  | filter name => rfl
  | nothing => rfl

theorem readLine?_eq (aligned : state.Aligned) (line : List Char) :
    state.readLine? line = some (state.readLine line) := by
  unfold readLine? readLine
  rw [aligned.sound.process?_eq]
  rcases processes : state.indent.process line with ⟨indent, fault | processed⟩
  · rfl
  simp only [aligned.applyAll?_eq processes, Option.bind_eq_bind, Option.bind_some]
  cases follows : applyAll processed.events { state with indent } with
  | error fault => rfl
  | ok entered =>
      have followed : state.follow line = .ok entered := by
        simp only [State.follow, processes, follows]
      exact (aligned.follow (follow_cases followed).2).readText?_eq _

/-- A line that is accepted leaves an aligned state. -/
theorem readLine (aligned : state.Aligned) {line : List Char} {after : State}
    (reads : state.readLine line = .ok after) : after.Aligned := by
  rw [readLine_eq] at reads
  cases follows : state.follow line with
  | error fault => rw [follows] at reads; cases reads
  | ok entered =>
      rw [follows] at reads
      exact (aligned.follow (follow_cases follows).2).grows (readText_cases reads).grows

/-- The lines folded into a logical line were taken before it is read. -/
theorem readLogical?_eq (aligned : state.Aligned) {line : List Char}
    (fits : line.count '\n' ≤ state.feed.lineno) :
    state.readLogical? line = some (state.readLogical line) := by
  have started : (state.started line).Aligned := aligned.grows (grows_started state line)
  have reads := started.readLine?_eq (line.filter (· != '\n'))
  unfold State.started at started reads
  unfold readLogical? readLogical
  simp only [sub?_eq fits, reads, Option.bind_eq_bind, Option.bind_some]
  cases read : { state with lineno := state.feed.lineno - line.count '\n' }.readLine
      (line.filter (· != '\n')) with
  | error fault => rfl
  | ok after => simp only [(started.readLine read).addBlanks?_eq, Option.bind_some, Option.pure_def]

/-- The body of a filter, its blank lines included, was taken before the line that ends it. -/
theorem collect?_eq (aligned : state.Aligned) {draft : Draft} (line : List Char)
    (found : state.filter.draft = some draft) (body : draft.texts.length < state.feed.lineno) :
    state.collect? line = some (state.collect line) := by
  unfold collect? collect
  rw [Collector.append?_eq]
  rcases appends : state.filter.append line state.indent.current with ⟨filter, _ | block⟩
  · rfl
  · have ended : (state.filter.append line state.indent.current).2 = some block := by rw [appends]
    obtain ⟨rfl, -⟩ := Collector.append_eq_some found ended
    have blanks := draft.finish_trailingBlanks_le
    have noted : { state with filter, lineno := state.feed.lineno }.Aligned :=
      aligned.growth (.note state state.feed filter state.feed.lineno)
    simp only [sub?_eq (Nat.one_le_of_lt body), Option.bind_eq_bind, Option.bind_some]
    exact noted.addFilter?_eq (by omega)

end Aligned

/-! ## Whole templates -/

section Reached

variable {source : List Char} {filename : Option String}

theorem opened?_eq (reached : Reached source filename state) :
    state.opened? = some state.opened := by
  have filters : (!state.inAuthorComment && state.filter.isOpen) = state.inFilter := rfl
  unfold opened? opened
  simp only [reached.aligned.inAuthorComment?_eq, filters, Feed.take?_eq, Option.bind_eq_bind,
    Option.bind_some]
  cases took : state.feed.take state.inFilter with
  | none => rfl
  | some taken =>
      obtain ⟨line, feed⟩ := taken
      obtain ⟨physical, taken⟩ := reached.placed.position.taken_take took
      by_cases filtering : state.inFilter = true
      · have isOpen : state.filter.isOpen = true := by simp_all [inFilter]
        obtain ⟨draft, found⟩ := Option.isSome_iff_exists.1 isOpen
        have moved : { state with feed }.Aligned :=
          reached.aligned.growth (.note state feed state.filter state.lineno)
        have body : draft.texts.length < feed.lineno := by
          have counted := (reached.dated.opened draft found).2
          have number := taken.lineno_eq
          omega
        simp [filtering, moved.collect?_eq line found body]
      · simp [filtering]

theorem step?_eq (reached : Reached source filename state) : state.step? = some state.step := by
  rw [step_eq, step?, opened?_eq reached]
  cases opens : state.opened with
  | none => rfl
  | some taken =>
      obtain ⟨line, ready⟩ := taken
      by_cases isOpen : ready.filter.isOpen = true
      · simp [isOpen]
      · have aligned : ready.Aligned := reached.aligned.grows (opened_grows opens)
        obtain ⟨physical, taken⟩ := reached.placed.position.taken_take (opened_feed opens)
        have counted : line.count '\n' ≤ ready.feed.lineno := by
          have number := taken.lineno_eq
          omega
        simp [isOpen, aligned.readLogical?_eq counted]

/-- Every step takes a line, so the reading ends when there is none left. -/
theorem runAux?_eq {fuel : Nat} (reached : Reached source filename state)
    (enough : state.feed.pending.length ≤ fuel) :
    runAux? fuel state = some (runAux fuel state) := by
  induction fuel generalizing state with
  | zero =>
      have exhausted : state.feed.pending = [] := List.eq_nil_of_length_eq_zero (by omega)
      simp [runAux?, runAux, Feed.hasNext, exhausted]
  | succ fuel ih =>
      by_cases more : state.feed.hasNext = true
      · simp only [runAux?, runAux, if_pos more, step?_eq reached, Option.bind_eq_bind,
          Option.bind_some]
        cases steps : state.step with
        | error error => rfl
        | ok next =>
            have fewer := (step_skip steps more).2
            exact ih (reached.step more steps) (by omega)
      · simp only [runAux?, runAux, if_neg more]

theorem flushed?_eq (reached : Reached source filename state) :
    state.flushed? = some state.flushed := by
  unfold flushed? flushed Collector.finish
  cases found : state.filter.draft with
  | none => simp [Collector.close, found]
  | some draft =>
      have body := (reached.dated.opened draft found).2
      have blanks := draft.finish_trailingBlanks_le
      have closed : { state with filter := {} }.Aligned :=
        reached.aligned.growth (.note state state.feed {} state.lineno)
      rw [Collector.close_of_draft found]
      exact closed.addFilter?_eq (by omega)

/-- At the end all containers but the root can be left, and are. -/
theorem finish?_eq (reached : Reached source filename state) :
    state.finish? = some state.finish := by
  have aligned : state.flushed.Aligned := reached.aligned.grows (flushed_grows state)
  have fits : state.flushed.indent.depth ≤ state.flushed.stack.length :=
    Nat.le_of_eq aligned.depth.symm
  have leaves := @applyAll?_leaves { state.flushed with indent := state.flushed.indent.finish.1 }
    state.flushed.indent.depth 0 fits
  rw [finish_eq]
  unfold finish?
  simp only [flushed?_eq reached, Tracker.finish?_eq, Tracker.finish_events, leaves, applyAll_leaves,
    aligned.leaveAll, Option.bind_eq_bind, Option.bind_some]
  rfl

end Reached

end State

/-- No source makes the reading of a template do anything that is not defined: no difference goes
below zero, no slice or index is out of its text or list or inside a character, every number of a
node is in use, no container is left that was not entered, and in the end the root is. -/
theorem parse?_eq_some (source : List Char) (filename : Option String) :
    parse? source filename = some (parse source filename) := by
  have runs : (State.ofSource source filename).run? = some (State.ofSource source filename).run :=
    State.runAux?_eq .start (Nat.le_refl _)
  unfold parse? parse
  rw [runs]
  cases ran : (State.ofSource source filename).run with
  | error error => rfl
  | ok last =>
      obtain ⟨reached, -⟩ := Reached.of_run ran
      simp only [State.finish?_eq reached, Except.bind, Option.bind_eq_bind, Option.bind_some]
      cases last.finish with
      | error error => rfl
      | ok final => rfl

end Template

end HamlTree
