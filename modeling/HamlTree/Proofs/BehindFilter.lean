import HamlTree.Proofs.Composition
import HamlTree.Proofs.FilterBodies

/-!
# BehindFilter -- the line that ends a filter

The lines of a filter's body are taken as they stand, one by one, and so is the line that shows the
body to be over: what it is turns out only when it has been taken. So no line of a body looks ahead, and
a filter on the outermost level is read the same with and without lines behind it, whatever signs of
continuation its body ends in (`Reached.resumes_in_filter`). What follows it is then read as by itself,
as it is behind any other template, unless its first line is piped. Such a line is not folded with the
lines that it would be folded with anywhere else.
-/

set_option autoImplicit false

namespace HamlTree

open Text Indentation

/-- A logical line starts as its first physical line does. -/
theorem Feed.next_cons {feed after : Feed} {line text : List Char} {rest : List (List Char)} {c : Char}
    (taken : feed.next = some (line, after)) (pending : feed.pending = (c :: text) :: rest)
    (noPipe : c ≠ '|') : ∃ tail, line = c :: tail := by
  obtain ⟨first, others, same, ⟨-, rfl, -⟩ | ⟨piped, rfl, -⟩⟩ := next_eq taken
  · cases pending.symm.trans same
    exact ⟨text, rfl⟩
  · cases pending.symm.trans same
    have whole := (cutPipe_of_isPiped piped).1
    rw [foldPiped_eq]
    cases cut : cutPipe (c :: text) with
    | nil =>
        rw [cut] at whole
        cases whole
        exact absurd rfl noPipe
    | cons first tail =>
        rw [cut, List.cons_append] at whole
        rw [(List.cons.inj whole).1]
        exact ⟨_, List.cons_append⟩

/-- Trimming the end leaves the first character, if anything. -/
theorem trimEnd_cons {c : Char} {text : List Char} (visible : trimEnd (c :: text) ≠ []) :
    ∃ rest, trimEnd (c :: text) = c :: rest := by
  obtain ⟨first, rest, same⟩ := List.exists_cons_of_ne_nil visible
  have initial := trimEnd_initial (c :: text)
  rw [same, List.cons_prefix_cons] at initial
  exact ⟨rest, by rw [same, initial.1]⟩

/-- A line that is blank or indented is indented if it has text. -/
theorem levelOf_trimEnd_pos {line : List Char}
    (indented : trimEnd line = [] ∨ line.head?.any isIndent = true)
    (solid : (split (trimEnd line)).2 ≠ []) : 0 < levelOf (trimEnd line) := by
  have visible : trimEnd line ≠ [] := by
    intro gone
    rw [gone] at solid
    exact solid rfl
  cases line with
  | nil => exact absurd rfl visible
  | cons c text =>
      have indents : isIndent c = true := indented.resolve_left visible
      obtain ⟨rest, trimmed⟩ := trimEnd_cons visible
      rw [trimmed, levelOf, split, List.takeWhile_cons_of_pos indents]
      exact Nat.succ_pos _

namespace Template

open FilterBlock

namespace State

/-- A line that joins a filter does so wherever the filter is read on. -/
theorem Resumes.step_of_isOpen {base : Arena} {offset : Nat} {state whole ready : State}
    {line : List Char} {settled : Prop} (resumes : Resumes base offset state whole)
    (aligned : state.Aligned) (dated : state.Dated) (opened : state.opened = some (line, ready))
    (isOpen : ready.filter.isOpen = true) (moved : ready.feed = state.feed.skip 1)
    (alike : state.feed.Alike whole.feed 1 settled) :
    ∃ wholeNext, whole.step = .ok wholeNext ∧ Resumes base offset ready wholeNext := by
  obtain ⟨wholeNext, wholeOpened, resumed, -⟩ :=
    resumes.opened aligned dated opened moved Nat.one_pos alike
  refine ⟨wholeNext, ?_, resumed⟩
  rw [step_eq, wholeOpened]
  exact if_pos (by rw [resumed.filter, Collector.isOpen_later]; exact isOpen)

variable {source name : List Char} {filename : Option String} {next : State}
  {rest : List (List Char)}

/-- A first line that starts with the sign of filters opens one on the outermost level, if it is
accepted at all. -/
theorem opens_of_first (steps : (State.ofSource source filename).step = .ok next)
    (pending : (State.ofSource source filename).feed.pending = (':' :: name) :: rest) :
    (∃ draft, next.filter.draft = some draft) ∧ next.indent.current = 0 ∧ next.feed.lineno = 1 ∧
      (':' :: name).getLast? ≠ some ',' := by
  have placed := Placed.ofSource source filename
  have aligned := Aligned.ofSource source filename
  have more : (State.ofSource source filename).feed.hasNext = true := by
    simp [Feed.hasNext, pending]
  cases step_stepped placed more steps with
  | collect opened found outside taken single grown => cases found
  | @read line physical feed ready entered after reads told =>
      obtain ⟨start, rfl⟩ := Feed.next_cons (opened_feed reads.opened) pending (by decide)
      have text : split ((':' :: start).filter (· != '\n')) =
          ([], ':' :: start.filter (· != '\n')) := by
        simp [split, isIndent]
      have follows := follow_flush (reads.started_aligned aligned) (congrArg Prod.fst text)
        (by rw [text]; exact List.cons_ne_nil _ _)
      cases reads.follows.symm.trans follows
      rw [text] at told
      dsimp only at told
      cases told with
      | blank gone => cases gone
      | remark solid inside =>
          rw [inAuthorComment, Arena.isAuthorComment, (reads.aligned aligned).rooted.content_root]
            at inside
          cases inside
      | @node content _ solid outside moved filled reading =>
          have names : (Line.readFilterName (':' :: start.filter (· != '\n'))).map
              Line.Meaning.filter = .ok (.node content) := congrArg Prod.fst reading
          cases named : Line.readFilterName (':' :: start.filter (· != '\n')) with
          | error fault => rw [named] at names; cases names
          | ok name => rw [named] at names; cases names
      | filter outside named word =>
          obtain ⟨single, opens⟩ := Placed.opens aligned reads outside
            ((congrArg Prod.snd text).trans named) word
          obtain ⟨physical, -, found, trimmed⟩ := opens none
          obtain ⟨first, alsoFound, heading⟩ := placed.position.physical pending
          rw [single]
          refine ⟨⟨_, rfl⟩, rfl, ?_, ?_⟩
          · change ready.feed.lineno = 1
            rw [reads.readied.frame.1, reads.taken.lineno_eq, single]
            rfl
          · rw [reads.lineno_eq] at found
            cases alsoFound.symm.trans found
            rw [← heading, trimmed, String.toList_ofList]
            exact getLast?_filterLine word (by decide) (by decide)
      | nothing solid outside moved void =>
          have space := List.dropWhile_eq_nil_iff.1 void ':' List.mem_cons_self
          exact absurd space (by decide)

end State

section Filter

variable {name line : List Char} {body second : List (List Char)} {filename : Option String}
  {state whole : State}

/-- Nothing ends a filter on the outermost level as long as the lines are blank or indented. -/
theorem Reached.not_reads_indented {draft : Draft} {physical : List Char} {feed : Feed}
    {ready entered : State} (reached : Reached (unlines ((':' :: name) :: body)) filename state)
    (unbroken : ∀ line ∈ (':' :: name) :: body, '\n' ∉ line)
    (indented : ∀ line ∈ body, trimEnd line = [] ∨ line.head?.any isIndent = true)
    (found : state.filter.draft = some draft) (flush : state.indent.current = 0)
    (started : 0 < state.feed.lineno) :
    ¬ State.Reads (unlines ((':' :: name) :: body)) state line physical feed ready entered := by
  intro reads
  obtain ⟨⟨rest, next⟩, solid, shallow⟩ := reads.closes reached.aligned reached.placed found
  have listed : line ∈ body.map trimEnd := by
    have member : line ∈ state.feed.pending := next ▸ List.mem_cons_self
    obtain ⟨count, number⟩ := Nat.exists_eq_succ_of_ne_zero (Nat.ne_of_gt started)
    rw [reached.placed.position, map_trimEnd_lines_unlines unbroken, number, List.map_cons,
      List.drop_succ_cons] at member
    exact List.mem_of_mem_drop member
  obtain ⟨source, inBody, rfl⟩ := List.mem_map.1 listed
  have deep := levelOf_trimEnd_pos (indented source inBody) solid
  omega

/-- As long as a line of the first template is left, the next one is the same in both readings. -/
theorem Reached.alike_next {first : List (List Char)} (reached : Reached (unlines first) filename state)
    (wholeReached : Reached (unlines (first ++ second)) filename whole)
    (resumes : State.Resumes Arena.empty 0 state whole)
    (unbroken : ∀ line ∈ first ++ second, '\n' ∉ line)
    (plain : ((second.map trimEnd).head?).any isPiped = false)
    (more : 1 ≤ state.feed.pending.length) : state.feed.Alike whole.feed 1 True := by
  have number : whole.feed.lineno = state.feed.lineno := resumes.position
  have left : state.feed.pending.length = first.length - state.feed.lineno := by
    rw [reached.placed.position, List.length_drop, List.length_map,
      length_lines_unlines fun line member => unbroken line (List.mem_append_left _ member)]
  obtain ⟨rest, total⟩ : ∃ rest, first.length = state.feed.lineno + (1 + rest) :=
    ⟨first.length - state.feed.lineno - 1, by omega⟩
  have alike := @alike_unlines_append first second filename True unbroken plain trivial
  rw [total] at alike
  have one := alike.later.initial
  rw [← reached.feed_eq.1, ← number, ← wholeReached.feed_eq.1] at one
  exact one

/-- The lines of a filter on the outermost level are read as by themselves with other lines behind
them, up to the last. The line that opens the filter does not end in a comma, and the others are taken
one by one. -/
theorem Reached.resumes_in_filter (reached : Reached (unlines ((':' :: name) :: body)) filename state)
    (unbroken : ∀ line ∈ (':' :: name) :: body ++ second, '\n' ∉ line)
    (indented : ∀ line ∈ body, trimEnd line = [] ∨ line.head?.any isIndent = true)
    (plain : ((second.map trimEnd).head?).any isPiped = false) :
    state = State.ofSource (unlines ((':' :: name) :: body)) filename ∨
      ((∃ draft, state.filter.draft = some draft) ∧ state.indent.current = 0 ∧
        0 < state.feed.lineno ∧
        ∃ whole, Reached (unlines ((':' :: name) :: body ++ second)) filename whole ∧
          State.Resumes Arena.empty 0 state whole) := by
  have unbrokenFirst : ∀ line ∈ (':' :: name) :: body, '\n' ∉ line :=
    fun line member => unbroken line (List.mem_append_left _ member)
  have visible : trimEnd (':' :: name) ≠ [] := by
    intro gone
    have space := List.rdropWhile_eq_nil_iff.1 gone ':' List.mem_cons_self
    exact absurd space (by decide)
  obtain ⟨word, heading⟩ := trimEnd_cons visible
  have pending := @pending_unlines filename _ unbrokenFirst
  rw [List.map_cons, heading] at pending
  -- from the first line on the filter stays open, on level 0
  induction reached with
  | start => exact .inl rfl
  | @step state next reached more steps ih =>
      right
      rcases ih with rfl | ⟨⟨draft, found⟩, flush, started, whole, wholeReached, resumes⟩
      · obtain ⟨opens, flush, number, ends⟩ := State.opens_of_first steps pending
        have alike := Reached.start.alike_next .start (.ofSource _ _ filename) unbroken plain
          (by simp [pending, State.ofSource])
        have settled : (Feed.ofSource filename (unlines ((':' :: name) :: body))).pending.length = 1 →
            (Feed.ofSource filename (unlines ((':' :: name) :: body))).Settled [] := by
          intro short
          refine settled_unlines unbrokenFirst fun last found => ?_
          obtain rfl : body = [] := by simpa [pending] using short
          obtain rfl : ':' :: name = last := by simpa using found
          rw [heading]
          exact ends
        obtain ⟨whole, wholeReached, resumes, -⟩ := (Reached.start.step more steps).resumes
          { alike with ends := fun short => .inr (settled short) } (Nat.le_of_eq number)
        exact ⟨opens, flush, by omega, whole, wholeReached, resumes⟩
      · cases State.step_stepped reached.placed more steps with
        | @collect draft text line physical feed filter opened found outside taken single grown =>
            have alike := reached.alike_next wholeReached resumes unbroken plain
              (Nat.le_trans (Nat.le_add_right ..) taken.fits)
            have moved : feed = state.feed.skip 1 := by rw [taken.moved, single]
            obtain ⟨wholeNext, wholeSteps, resumed⟩ := resumes.step_of_isOpen reached.aligned
              reached.dated opened (by simp [Collector.isOpen, grown]) moved alike
            refine ⟨⟨_, grown⟩, flush, ?_, wholeNext,
              wholeReached.step (alike.hasNext Nat.one_pos) wholeSteps, resumed⟩
            rw [moved]
            exact Nat.lt_add_right 1 started
        | read reads told =>
            exact absurd reads
              (reached.not_reads_indented unbrokenFirst indented found flush started)

/-- An accepted filter on the outermost level and an accepted template that starts with a line of text
are accepted one behind the other, unless that line is piped. Below the root there is the filter with
its blank lines, and then what is below the root of the template, as many lines down as the filter has.
How the body of the filter ends does not matter. -/
theorem parse_unlines_filter {before arena : Arena}
    (unbroken : ∀ line ∈ (':' :: name) :: body ++ second, '\n' ∉ line)
    (accepted : parse (unlines ((':' :: name) :: body)) filename = .ok before)
    (indented : ∀ line ∈ body, trimEnd line = [] ∨ line.head?.any isIndent = true)
    (acceptedNext : parse (unlines second) filename = .ok arena)
    (starts : second.head? = some line) (visible : trimEnd line ≠ [])
    (plain : isPiped (trimEnd line) = false) :
    ∃ whole, parse (unlines ((':' :: name) :: body ++ second)) filename = .ok whole ∧
      whole.tree.children = before.tree.children ++
        Tree.movedAll before.renumber (body.length + 1) arena.tree.children := by
  obtain ⟨last, -, reached, exhausted, rfl⟩ := parse_cases accepted
  have unpiped : ((second.map trimEnd).head?).any isPiped = false := by
    rw [List.head?_map, starts]
    exact plain
  rcases reached.resumes_in_filter unbroken indented unpiped with
    rfl | ⟨-, -, -, middle, middleReached, resumes⟩
  · have pending := @pending_unlines filename ((':' :: name) :: body)
      fun line member => unbroken line (List.mem_append_left _ member)
    simp [Feed.hasNext, State.ofSource, pending] at exhausted
  · obtain ⟨whole, parses, grafted⟩ := grafted_of_resumes unbroken reached exhausted middleReached
      resumes acceptedNext starts visible plain
    exact ⟨whole, parses, grafted.children_tree (rooted_of_parse accepted)
      (rooted_of_parse acceptedNext) (rooted_of_parse parses)⟩

end Filter

/-- The body of the filter has a piped line and ends in a comma, and the template behind it has a line
of text before lines that are folded. -/
theorem parse_unlines_filter_comma :
    ∃ before arena whole,
      parse ":css\n  x |\n  y,\n".toList = .ok before ∧
      parse "%a\n= z |\n  w |\n".toList = .ok arena ∧
      parse ":css\n  x |\n  y,\n%a\n= z |\n  w |\n".toList = .ok whole ∧
      whole.tree.children =
        before.tree.children ++ Tree.movedAll before.renumber 3 arena.tree.children := by
  have accepts : (parse ":css\n  x |\n  y,\n".toList).isOk = true ∧
      (parse "%a\n= z |\n  w |\n".toList).isOk = true := by
    decide +kernel
  cases accepted : parse ":css\n  x |\n  y,\n".toList with
  | error fault => rw [accepted] at accepts; cases accepts.1
  | ok before =>
      cases acceptedNext : parse "%a\n= z |\n  w |\n".toList with
      | error fault => rw [acceptedNext] at accepts; cases accepts.2
      | ok arena =>
          have first : unlines (":css".toList :: ["  x |".toList, "  y,".toList]) =
              ":css\n  x |\n  y,\n".toList := by decide
          have second : unlines ["%a".toList, "= z |".toList, "  w |".toList] =
              "%a\n= z |\n  w |\n".toList := by decide
          obtain ⟨whole, parses, children⟩ := parse_unlines_filter (by decide) (first ▸ accepted)
            (by decide) (second ▸ acceptedNext) rfl (by decide) (by decide)
          exact ⟨before, arena, whole, rfl, rfl, parses, children⟩

/-- By themselves the two piped lines are one script and a blank line. Behind a filter the first of them
is a script with its pipe, and the second is text below it. -/
theorem closing_line_not_folded :
    ∃ before arena whole,
      parse ":plain\n  x\n".toList = .ok before ∧
      parse "= a |\n  b |\n".toList = .ok arena ∧
      parse ":plain\n  x\n= a |\n  b |\n".toList = .ok whole ∧
      arena.content? 1 = some (.script "a b " none true false) ∧
      whole.content? 2 = some (.script "a |" none true false) ∧
      whole.tree.children ≠
        before.tree.children ++ Tree.movedAll before.renumber 2 arena.tree.children := by
  have first : (parse ":plain\n  x\n".toList).toOption.map (·.tree.children.length) = some 1 := by
    decide +kernel
  have second : (parse "= a |\n  b |\n".toList).toOption.map
      (fun arena => (arena.tree.children.length, arena.content? 1)) =
        some (2, some (.script "a b " none true false)) := by
    decide +kernel
  have both : (parse ":plain\n  x\n= a |\n  b |\n".toList).toOption.map
      (fun arena => (arena.tree.children.length, arena.content? 2)) =
        some (2, some (.script "a |" none true false)) := by
    decide +kernel
  cases accepted : parse ":plain\n  x\n".toList with
  | error fault => rw [accepted] at first; cases first
  | ok before =>
      cases acceptedNext : parse "= a |\n  b |\n".toList with
      | error fault => rw [acceptedNext] at second; cases second
      | ok arena =>
          cases acceptedBoth : parse ":plain\n  x\n= a |\n  b |\n".toList with
          | error fault => rw [acceptedBoth] at both; cases both
          | ok whole =>
              rw [accepted] at first
              rw [acceptedNext] at second
              rw [acceptedBoth] at both
              simp only [Except.toOption, Option.map_some, Option.some.injEq, Prod.mk.injEq]
                at first second both
              refine ⟨before, arena, whole, rfl, rfl, rfl, second.2, both.2, fun same => ?_⟩
              have lengths := congrArg List.length same
              rw [List.length_append, Tree.movedAll_eq_map, List.length_map, first, second.1, both.1]
                at lengths
              cases lengths

end Template

end HamlTree
