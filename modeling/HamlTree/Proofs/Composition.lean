import HamlTree.Proofs.Restart
import HamlTree.Proofs.SingleTree

/-!
# Composition -- the tree of two templates, one behind the other

If a template starts with a line of text and the one before it does not break off in the middle of
something, the two together are accepted, and their tree is the tree of the first with that of the
second grafted onto its root (`grafted_of_parse`). The first is read as by itself, up to its end
(`Reached.resumes`), and the second as by itself from there on (`Reached.restarts`,
`grafted_of_resumes`).

What a graft comes to for the trees below the root is `Arena.Grafted.children_tree`. No number changes in
an inline node, since the inline nodes of a template that was read have no children.
-/

set_option autoImplicit false

namespace HamlTree

open Text

/-! ## Trees below a graft -/

namespace Tree

/-- The trees right below the root of this one. -/
def children : Tree → List Tree
  | .node _ _ children => children

mutual

/-- The tree with other numbers, `offset` lines down. -/
def moved (renumber : NodeId → NodeId) (offset : Nat) : Tree → Tree
  | .node id here children =>
    .node (renumber id) (here.later offset) (movedAll renumber offset children)

/-- Several trees with other numbers, `offset` lines down. -/
def movedAll (renumber : NodeId → NodeId) (offset : Nat) : List Tree → List Tree
  | [] => []
  | tree :: rest => moved renumber offset tree :: movedAll renumber offset rest

end

theorem movedAll_eq_map (renumber : NodeId → NodeId) (offset : Nat) (trees : List Tree) :
    movedAll renumber offset trees = trees.map (moved renumber offset) := by
  induction trees with
  | nil => rfl
  | cons tree rest ih => rw [movedAll, ih, List.map_cons]

end Tree

namespace Arena

theorem Rooted.children_tree {arena : Arena} (rooted : arena.Rooted) :
    arena.tree.children = (arena.children root).filterMap arena.unfold := by
  obtain ⟨node, found⟩ := exists_node? rooted.size_pos
  rw [tree, unfold_eq rooted.ranked, found]
  rfl

namespace Grafted

variable {base arena whole : Arena} {offset : Nat}

/-- Below a node of `base` other than the root nothing has changed. -/
theorem unfold_old (grafted : Grafted base arena whole offset) (rooted : base.Rooted)
    (wholeRooted : whole.Rooted) {id : Nat} (positive : 0 < id) (old : id < base.size) :
    whole.unfold id = base.unfold id := by
  induction known : base.size - id using Nat.strongRecOn generalizing id with
  | _ left ih =>
      rw [unfold_eq wholeRooted.ranked, unfold_eq rooted.ranked, grafted.node?_old old,
        grafted.children_old positive old]
      have below : (base.children id).filterMap whole.unfold =
          (base.children id).filterMap base.unfold := by
        apply List.filterMap_congr
        intro child listed
        have younger := rooted.parent_lt listed
        have stored := rooted.stored listed
        exact ih (base.size - child) (by omega) (by omega) stored rfl
      rw [below]

/-- Below a node that was grafted on there is what is below it in `arena`. -/
theorem unfold_new (grafted : Grafted base arena whole offset) (rooted : arena.Rooted)
    (wholeRooted : whole.Rooted) {id : Nat} (positive : 0 < id) :
    whole.unfold (base.renumber id) =
      (arena.unfold id).map (Tree.moved base.renumber offset) := by
  induction known : arena.size - id using Nat.strongRecOn generalizing id with
  | _ left ih =>
      have below : ((arena.children id).map base.renumber).filterMap whole.unfold =
          Tree.movedAll base.renumber offset ((arena.children id).filterMap arena.unfold) := by
        rw [Tree.movedAll_eq_map, List.filterMap_map, List.map_filterMap]
        apply List.filterMap_congr
        intro child listed
        have younger := rooted.parent_lt listed
        have stored := rooted.stored listed
        exact ih (arena.size - child) (by omega) (by omega) rfl
      obtain ⟨count, rfl⟩ : ∃ count, id = count + 1 := ⟨id - 1, by omega⟩
      rw [unfold_eq wholeRooted.ranked, unfold_eq rooted.ranked, grafted.children_new, stem,
        List.nil_append, below, renumber, grafted.node?_new, Option.map_map, Option.map_map]
      rfl

/-- The trees below the root are those of `base`, and then those of `arena`. -/
theorem children_tree (grafted : Grafted base arena whole offset) (baseRooted : base.Rooted)
    (rooted : arena.Rooted) (wholeRooted : whole.Rooted) :
    whole.tree.children =
      base.tree.children ++ Tree.movedAll base.renumber offset arena.tree.children := by
  have list : whole.children root =
      base.children root ++ (arena.children root).map base.renumber := grafted.children_new root
  rw [wholeRooted.children_tree, baseRooted.children_tree, rooted.children_tree, list,
    List.filterMap_append, List.filterMap_map, Tree.movedAll_eq_map, List.map_filterMap]
  congr 1
  · apply List.filterMap_congr
    intro child listed
    exact grafted.unfold_old baseRooted wholeRooted (baseRooted.parent_lt listed)
      (baseRooted.stored listed)
  · apply List.filterMap_congr
    intro child listed
    exact grafted.unfold_new rooted wholeRooted (rooted.parent_lt listed)

end Grafted

end Arena

/-! ## Reading one template behind another -/

namespace Template

namespace Reached

variable {source other line : List Char} {filename : Option String} {state whole : State}
  {rest : List (List Char)}

/-- From its first step on, the reading of a template goes on in the same way behind the lines that
led to `whole`. -/
theorem restarts (reached : Reached source filename state)
    (wholeReached : Reached other filename whole)
    (sameRoot : Arena.empty.node? Arena.root = whole.flushed.arena.node? Arena.root)
    (wholePending : whole.feed.pending = line :: rest)
    (pending : (State.ofSource source filename).feed.pending = line :: rest)
    (plain : isPiped line = false) (visible : trimStart line ≠ []) :
    state = State.ofSource source filename ∨
      ∃ later, Reached other filename later ∧
        State.Resumes whole.flushed.arena whole.feed.lineno state later ∧
        later.feed.pending = state.feed.pending ∧ State.Anchored whole.flushed.arena state := by
  induction reached with
  | start => exact .inl rfl
  | @step state next reached more steps ih =>
      right
      rcases ih with rfl | ⟨later, laterReached, resumes, same, anchored⟩
      · have sameName : whole.feed.filename = filename := by
          rw [wholeReached.feed_eq.1]
          rfl
        obtain ⟨wholeNext, wholeSteps, resumed, samePending, anchored⟩ :=
          State.restarts wholeReached.aligned wholeReached.placed wholeReached.fit sameRoot sameName
            wholePending pending plain visible steps
        have wholeMore : whole.feed.hasNext = true := by simp [Feed.hasNext, wholePending]
        exact ⟨wholeNext, wholeReached.step wholeMore wholeSteps, resumed, samePending, anchored⟩
      · obtain ⟨⟨count, fits, moved⟩, -⟩ := State.step_skip steps more
        have together := resumes.step anchored reached.placed reached.aligned reached.dated more
          ((State.step_feed steps more).symm.trans moved) (.of_pending same fits)
        rw [steps] at together
        obtain ⟨laterNext, laterSteps, resumed, laterMoved⟩ := together.of_ok
        have laterMore : later.feed.hasNext = true := by
          rw [Feed.hasNext, same]
          exact more
        refine ⟨laterNext, laterReached.step laterMore laterSteps, resumed, ?_,
          anchored.step reached.aligned (State.step_stepped reached.placed more steps)⟩
        rw [laterMoved, moved, Feed.skip, Feed.skip, same]

end Reached

section Append

variable {first second : List (List Char)} {filename : Option String} {line : List Char}

theorem pending_unlines {parts : List (List Char)} (unbroken : ∀ line ∈ parts, '\n' ∉ line) :
    (Feed.ofSource filename (unlines parts)).pending = parts.map trimEnd :=
  map_trimEnd_lines_unlines unbroken

/-- For a reader that is settled at their end, lines look the same with and without lines behind them,
unless those start with a pipe. -/
theorem alike_unlines_append {settled : Prop} (unbroken : ∀ line ∈ first ++ second, '\n' ∉ line)
    (plain : ((second.map trimEnd).head?).any isPiped = false) (ends : settled) :
    (Feed.ofSource filename (unlines first)).Alike
      (Feed.ofSource filename (unlines (first ++ second))) first.length settled := by
  have pending := @pending_unlines filename first fun line member =>
    unbroken line (List.mem_append_left _ member)
  have wholePending := @pending_unlines filename (first ++ second) unbroken
  refine ⟨?_, ?_, fun _ => ?_, fun _ => .inr ends⟩
  · rw [pending, List.length_map]
  · rw [pending, wholePending, ← List.map_take, ← List.map_take, List.take_left, List.take_length]
  · rw [wholePending, List.map_append, List.getElem?_append_right (by rw [List.length_map]),
      List.length_map, Nat.sub_self, ← List.head?_eq_getElem?]
    exact plain

/-- Code is settled at the end of lines that do not end in a comma. -/
theorem settled_unlines (unbroken : ∀ line ∈ first, '\n' ∉ line)
    (ends : ∀ last, first.getLast? = some last → (trimEnd last).getLast? ≠ some ',') :
    (Feed.ofSource filename (unlines first)).Settled [] := by
  unfold Feed.Settled
  rw [pending_unlines unbroken, List.getLast?_map]
  cases found : first.getLast? with
  | none => exact Option.some_ne_none _ ∘ Eq.symm
  | some last => exact ends last found

/-- Once the lines of the first template are read as by itself, those of the second are, and the tree of
the second is grafted onto that of the first. -/
theorem grafted_of_resumes {last middle : State} {arena : Arena}
    (unbroken : ∀ line ∈ first ++ second, '\n' ∉ line)
    (reached : Reached (unlines first) filename last) (exhausted : last.feed.hasNext = false)
    (middleReached : Reached (unlines (first ++ second)) filename middle)
    (resumes : State.Resumes Arena.empty 0 last middle)
    (acceptedNext : parse (unlines second) filename = .ok arena)
    (starts : second.head? = some line) (visible : trimEnd line ≠ [])
    (plain : isPiped (trimEnd line) = false) :
    ∃ whole, parse (unlines (first ++ second)) filename = .ok whole ∧
      Arena.Grafted last.flushed.arena arena whole first.length := by
  obtain ⟨rest, rfl⟩ : ∃ rest, second = line :: rest := List.head?_eq_some_iff.1 starts
  have unbrokenFirst : ∀ line ∈ first, '\n' ∉ line :=
    fun line member => unbroken line (List.mem_append_left _ member)
  have pending := @pending_unlines filename (line :: rest) fun line member =>
    unbroken line (List.mem_append_right _ member)
  have wholePending := @pending_unlines filename (first ++ line :: rest) unbroken
  have number : last.feed.lineno = first.length :=
    (reached.lineno_of_exhausted exhausted).trans (length_lines_unlines unbrokenFirst)
  have graft := (resumes.flushed reached.aligned reached.dated).arena
  have same := graft.eq_of_empty
  rw [← same] at graft ⊢
  have middleNumber : middle.feed.lineno = first.length := resumes.position.trans number
  have middlePending : middle.feed.pending = trimEnd line :: rest.map trimEnd := by
    rw [middleReached.feed_eq.1, middleNumber, Feed.skip, wholePending, List.map_append]
    exact List.drop_left' (List.length_map ..)
  obtain ⟨final, -, finalReached, finalExhausted, rfl⟩ := parse_cases acceptedNext
  rcases finalReached.restarts middleReached graft.sameRoot.symm middlePending pending plain
    (trimStart_trimEnd_ne_nil visible) with rfl | ⟨later, laterReached, resumed, samePending, -⟩
  · simp [Feed.hasNext, State.ofSource, pending] at finalExhausted
  · refine ⟨_, parse_of_exhausted laterReached ?_, ?_⟩
    · rw [Feed.hasNext, samePending]
      exact finalExhausted
    · rw [← middleNumber]
      exact (resumed.flushed finalReached.aligned finalReached.dated).arena

/-- The tree of two templates one behind the other is the tree of the first with that of the second
grafted on. -/
theorem grafted_of_parse {before arena : Arena}
    (unbroken : ∀ line ∈ first ++ second, '\n' ∉ line)
    (accepted : parse (unlines first) filename = .ok before)
    (acceptedNext : parse (unlines second) filename = .ok arena)
    (starts : second.head? = some line) (visible : trimEnd line ≠ [])
    (plain : isPiped (trimEnd line) = false)
    (ends : ∀ last, first.getLast? = some last → (trimEnd last).getLast? ≠ some ',') :
    ∃ whole, parse (unlines (first ++ second)) filename = .ok whole ∧
      Arena.Grafted before arena whole first.length := by
  obtain ⟨last, -, reached, exhausted, rfl⟩ := parse_cases accepted
  have unbrokenFirst : ∀ line ∈ first, '\n' ∉ line :=
    fun line member => unbroken line (List.mem_append_left _ member)
  have within : last.feed.lineno ≤ first.length :=
    length_lines_unlines unbrokenFirst ▸ reached.feed_eq.2
  have unpiped : ((second.map trimEnd).head?).any isPiped = false := by
    rw [List.head?_map, starts]
    exact plain
  obtain ⟨middle, middleReached, resumes, -⟩ :=
    reached.resumes (alike_unlines_append unbroken unpiped (settled_unlines unbrokenFirst ends))
      within
  exact grafted_of_resumes unbroken reached exhausted middleReached resumes acceptedNext starts
    visible plain

/-- Two accepted templates, of which the second starts with a line of text that has no pipe at its end
and the first does not end in a comma, white space aside, are accepted one behind the other. Below the
root there is what is below the root of the first, and then what is below the root of the second, as
many lines down as the first has. Whether the first ends in a pipe does not matter, since the next line
has none. -/
theorem parse_unlines_append {before arena : Arena}
    (unbroken : ∀ line ∈ first ++ second, '\n' ∉ line)
    (accepted : parse (unlines first) filename = .ok before)
    (acceptedNext : parse (unlines second) filename = .ok arena)
    (starts : second.head? = some line) (visible : trimEnd line ≠ [])
    (unpiped : ¬ [' ', '|'] <:+ trimEnd line)
    (ends : ∀ last, first.getLast? = some last → ¬ [','] <:+ trimEnd last) :
    ∃ whole, parse (unlines (first ++ second)) filename = .ok whole ∧
      whole.tree.children = before.tree.children ++
        Tree.movedAll before.renumber first.length arena.tree.children := by
  have plain : isPiped (trimEnd line) = false := by
    refine Bool.eq_false_iff.2 fun piped => unpiped ?_
    obtain ⟨start, same⟩ := isPiped_eq piped
    exact ⟨start, same.symm⟩
  have calm : ∀ last, first.getLast? = some last → (trimEnd last).getLast? ≠ some ',' := by
    intro last found comma
    obtain ⟨start, same⟩ := List.getLast?_eq_some_iff.1 comma
    exact ends last found ⟨start, same.symm⟩
  obtain ⟨whole, parses, grafted⟩ :=
    grafted_of_parse unbroken accepted acceptedNext starts visible plain calm
  exact ⟨whole, parses, grafted.children_tree (rooted_of_parse accepted)
    (rooted_of_parse acceptedNext) (rooted_of_parse parses)⟩

end Append

/-- The first template ends inside an element, in a filter with a blank line at its end, and the second
has a node on an element's own line, whose code goes on over a line. -/
theorem parse_unlines_append_open_filter :
    ∃ before arena whole,
      parse "%p\n  :css\n    x\n\n".toList = .ok before ∧
      parse "%a= y,\n  z\n".toList = .ok arena ∧
      parse "%p\n  :css\n    x\n\n%a= y,\n  z\n".toList = .ok whole ∧
      whole.tree.children =
        before.tree.children ++ Tree.movedAll before.renumber 4 arena.tree.children := by
  have accepts : (parse "%p\n  :css\n    x\n\n".toList).isOk = true ∧
      (parse "%a= y,\n  z\n".toList).isOk = true := by
    decide +kernel
  cases accepted : parse "%p\n  :css\n    x\n\n".toList with
  | error fault => rw [accepted] at accepts; cases accepts.1
  | ok before =>
      cases acceptedNext : parse "%a= y,\n  z\n".toList with
      | error fault => rw [acceptedNext] at accepts; cases accepts.2
      | ok arena =>
          have first : unlines ["%p".toList, "  :css".toList, "    x".toList, []] =
              "%p\n  :css\n    x\n\n".toList := by decide
          have second : unlines ["%a= y,".toList, "  z".toList] = "%a= y,\n  z\n".toList := by decide
          obtain ⟨whole, parses, children⟩ := parse_unlines_append (by decide) (first ▸ accepted)
            (second ▸ acceptedNext) rfl (by decide) (by decide) (by decide)
          exact ⟨before, arena, whole, rfl, rfl, parses, children⟩

end Template

end HamlTree
