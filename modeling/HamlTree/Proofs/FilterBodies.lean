import HamlTree.Proofs.Dating
import Mathlib.Data.List.Forall2

/-!
# FilterBodies -- a filter keeps its body as it is written, and all of it

A filter's body is collected line by line, and three things about it are settled by different lines.
The first line with text fixes how much of each line is left out. The blank lines at the end are cut,
which is known only when the body is over. And the line that ends a body need not be as shallow as the
filter: the collector lets go of any line that does not reach the width of the body. That a line
between the two is refused is left to the nesting: the filter is then the youngest node, and nothing
may stand below it (`Reads.closes`).

`Gathers` is what a collector has taken so far, next to the lines it was given. When the filter is
made, its node and the blank nodes behind it are compared with the source (`Transcribes`). Nodes do
not change after that, so every filter of an accepted template stays so (`Transcribing.step`).
-/

set_option autoImplicit false

namespace HamlTree

open Text Indentation

/-- A trimmed line that is all indentation is empty. -/
theorem eq_nil_of_split_trimEnd {physical : List Char} (gone : (split (trimEnd physical)).2 = []) :
    trimEnd physical = [] := by
  by_contra visible
  apply trimStart_trimEnd_ne_nil visible
  apply List.dropWhile_eq_nil_iff.2
  intro c member
  exact isSpace_of_isIndent (List.dropWhile_eq_nil_iff.1 gone c member)

/-- From a physical line on there is that line, and then what is behind it. -/
theorem drop_of_physicalLine? {source physical : List Char} {lineno : Nat} (positive : 0 < lineno)
    (found : physicalLine? source lineno = some physical) :
    ((lines source).map trimEnd).drop (lineno - 1) =
      trimEnd physical :: ((lines source).map trimEnd).drop lineno := by
  have head : ((lines source).map trimEnd)[lineno - 1]? = some (trimEnd physical) := by
    rw [List.getElem?_map, show (lines source)[lineno - 1]? = some physical from found]
    rfl
  obtain ⟨within, same⟩ := List.getElem?_eq_some_iff.1 head
  rw [List.drop_eq_getElem_cons within, same, Nat.sub_add_cancel positive]

/-! ## Lines and texts -/

namespace FilterBlock

/-- What is kept of a line in a body of this width: nothing of an empty line, and of a line with text
all that is behind the width. -/
inductive Keeps (width : Nat) : List Char → String → Prop where
  | blank : Keeps width [] ""
  | text {line : List Char} (solid : (split line).2 ≠ []) (deep : width ≤ levelOf line) :
      Keeps width line (String.ofList (line.drop width))

/-- The texts are what is kept of the lines, and the first line with text has just the width. -/
structure Verbatim (width : Nat) (body : List (List Char)) (texts : List String) : Prop where
  kept : List.Forall₂ (Keeps width) body texts
  first : ∀ line ∈ body.find? (· != []), levelOf line = width

/-- What the collector of a filter on this level has taken: blank lines only, or a body that has its
width. -/
inductive Gathers (level : Nat) : Option Nat → List (List Char) → List String → Prop where
  | blanks (count : Nat) : Gathers level none (List.replicate count []) (List.replicate count "")
  | texts {width : Nat} {body : List (List Char)} {texts : List String} (deeper : level < width)
      (verbatim : Verbatim width body texts) (begun : ∃ line ∈ body, line ≠ []) :
      Gathers level (some width) body texts

variable {width level : Nat} {line : List Char} {body : List (List Char)} {text : String}
  {texts : List String}

/-- A text is empty for an empty line alone. -/
theorem Keeps.eq_nil (keeps : Keeps width line text) (empty : text = "") : line = [] := by
  cases keeps with
  | blank => rfl
  | text solid deep =>
      have gone : line.drop width = [] := by simpa using empty
      have short : line.length ≤ width := List.drop_eq_nil_iff.1 gone
      have whole := congrArg List.length (split_append line)
      have some := List.length_pos_iff.2 solid
      simp only [List.length_append, levelOf] at whole deep
      omega

namespace Verbatim

/-- One more line. If it is the first with text, it has the width. -/
theorem concat (verbatim : Verbatim width body texts) (keeps : Keeps width line text)
    (fixed : (∀ earlier ∈ body, earlier = []) → line ≠ [] → levelOf line = width) :
    Verbatim width (body ++ [line]) (texts ++ [text]) := by
  refine ⟨List.rel_append verbatim.kept (.cons keeps .nil), ?_⟩
  intro found among
  rw [Option.mem_def, List.find?_append, Option.or_eq_some_iff] at among
  rcases among with earlier | ⟨none, last⟩
  · exact verbatim.first found earlier
  · obtain ⟨solid, rfl⟩ : line ≠ [] ∧ line = found := by simpa using last
    exact fixed (by simpa using none) solid

theorem blanks (width count : Nat) :
    Verbatim width (List.replicate count []) (List.replicate count "") := by
  induction count with
  | zero => exact ⟨.nil, by simp⟩
  | succ count ih =>
      rw [List.replicate_succ', List.replicate_succ']
      exact ih.concat .blank fun _ solid => absurd rfl solid

/-- Empty texts are kept of empty lines. -/
theorem eq_blanks {count : Nat}
    (kept : List.Forall₂ (Keeps width) body (List.replicate count "")) :
    body = List.replicate count [] := by
  induction count generalizing body with
  | zero => cases kept; rfl
  | succ count ih =>
      rw [List.replicate_succ] at kept
      cases kept with
      | cons keeps others => rw [keeps.eq_nil rfl, ih others, List.replicate_succ]

/-- The lines of the empty texts at the end are empty. -/
theorem cut {count : Nat} (verbatim : Verbatim width body (texts ++ List.replicate count "")) :
    ∃ shown, body = shown ++ List.replicate count [] ∧ Verbatim width shown texts := by
  have front := List.forall₂_take_append body texts _ verbatim.kept
  have back := eq_blanks (List.forall₂_drop_append body texts _ verbatim.kept)
  refine ⟨body.take texts.length, ?_, front, ?_⟩
  · rw [← back, List.take_append_drop]
  · intro line among
    apply verbatim.first line
    rw [← List.take_append_drop texts.length body, Option.mem_def, List.find?_append,
      Option.mem_def.1 among]
    rfl

end Verbatim

namespace Gathers

variable {bodyIndent : Option Nat}

theorem verbatim (gathers : Gathers level bodyIndent body texts) :
    ∃ width, level < width ∧ Verbatim width body texts := by
  cases gathers with
  | blanks count => exact ⟨level + 1, Nat.lt_succ_self level, .blanks _ count⟩
  | texts deeper verbatim begun => exact ⟨_, deeper, verbatim⟩

theorem blank (gathers : Gathers level bodyIndent body texts) :
    Gathers level bodyIndent (body ++ [[]]) (texts ++ [""]) := by
  cases gathers with
  | blanks count =>
      rw [← List.replicate_succ', ← List.replicate_succ']
      exact .blanks (count + 1)
  | texts deeper verbatim begun =>
      obtain ⟨line, listed, solid⟩ := begun
      refine .texts deeper (verbatim.concat .blank fun _ none => absurd rfl none) ?_
      exact ⟨line, List.mem_append_left _ listed, solid⟩

theorem further (gathers : Gathers level (some width) body texts) (solid : (split line).2 ≠ [])
    (deep : width ≤ levelOf line) :
    Gathers level (some width) (body ++ [line]) (texts ++ [String.ofList (line.drop width)]) := by
  cases gathers with
  | texts deeper verbatim begun =>
      obtain ⟨earlier, listed, filled⟩ := begun
      refine .texts deeper (verbatim.concat (.text solid deep) fun empty _ => ?_) ?_
      · exact absurd (empty earlier listed) filled
      · exact ⟨earlier, List.mem_append_left _ listed, filled⟩

/-- The first line with text is kept from where its text starts. -/
theorem first (gathers : Gathers level none body texts) (solid : (split line).2 ≠ [])
    (deeper : level < levelOf line) :
    Gathers level (some (levelOf line)) (body ++ [line])
      (texts ++ [String.ofList (split line).2]) := by
  have start : (split line).2 = line.drop (levelOf line) := by
    have dropped : ((split line).1 ++ (split line).2).drop (levelOf line) = (split line).2 :=
      List.drop_left
    rw [split_append] at dropped
    exact dropped.symm
  have filled : line ≠ [] := by
    rintro rfl
    exact solid rfl
  cases gathers with
  | blanks count =>
      rw [start]
      refine .texts deeper ?_ ⟨line, List.mem_append_right _ (List.mem_singleton_self line), filled⟩
      exact (Verbatim.blanks _ count).concat (.text solid (Nat.le_refl _)) fun _ _ => rfl

/-- A line that does not end the filter is gathered. -/
theorem append {collector : Collector} {draft : Draft}
    (gathers : Gathers level collector.bodyIndent body draft.texts)
    (found : collector.draft = some draft) (trimmed : (split line).2 = [] → line = [])
    (goesOn : (collector.append line level).2 = none) :
    ∃ text, (collector.append line level).1.draft = some (draft.push text) ∧
      Gathers level (collector.append line level).1.bodyIndent (body ++ [line])
        (draft.push text).texts := by
  unfold Collector.append at goesOn ⊢
  dsimp only at goesOn ⊢
  split at goesOn
  · rename_i gone
    obtain rfl : line = [] := trimmed (by simpa using gone)
    refine ⟨_, Collector.pushText_draft found [], ?_⟩
    exact gathers.blank
  rename_i text
  have solid : (split line).2 ≠ [] := by simpa using text
  rw [if_neg text]
  cases fixed : collector.bodyIndent with
  | some width =>
      rw [fixed] at goesOn gathers
      dsimp only at goesOn ⊢
      split at goesOn
      · simp [Collector.close_of_draft found] at goesOn
      rename_i deep
      rw [if_neg deep]
      refine ⟨_, Collector.pushText_draft found _, ?_⟩
      change Gathers level collector.bodyIndent _ _
      rw [fixed]
      exact gathers.further solid (Nat.not_lt.1 deep)
  | none =>
      rw [fixed] at goesOn gathers
      dsimp only at goesOn ⊢
      split at goesOn
      · rename_i deeper
        rw [if_pos deeper]
        have still : { collector with bodyIndent := some (levelOf line) }.draft = some draft :=
          found
        exact ⟨_, Collector.pushText_draft still _, gathers.first solid deeper⟩
      · simp [Collector.close_of_draft found] at goesOn

end Gathers

/-- What is cut from a body are the empty texts at its end. -/
theorem Draft.texts_eq (draft : Draft) :
    draft.texts = draft.finish.texts ++ List.replicate draft.finish.trailingBlanks "" := by
  have whole := @List.rdropWhile_append_rtakeWhile _ String.isEmpty draft.texts
  have empty : draft.texts.rtakeWhile String.isEmpty =
      List.replicate draft.finish.trailingBlanks "" := by
    rw [List.eq_replicate_iff]
    constructor
    · have length := congrArg List.length whole
      rw [List.length_append] at length
      change _ = draft.texts.length - (draft.texts.rdropWhile String.isEmpty).length
      omega
    · intro text among
      simpa using List.mem_rtakeWhile_imp among
  rw [← empty]
  exact whole.symm

theorem Draft.getLast?_finish (draft : Draft) : draft.finish.texts.getLast? ≠ some "" := by
  intro last
  cases of_getLast?_dropEndWhile last

/-- A filter is ended by a line with text. -/
theorem Collector.solid_of_append {collector : Collector} {block : Finished}
    (ends : (collector.append line level).2 = some block) : (split line).2 ≠ [] := by
  intro gone
  simp [Collector.append, gone] at ends

end FilterBlock

/-! ## Nodes and source -/

/-- No line is read as a filter node: that is made when the body is over. -/
theorem Line.Yields.ne_filter {stamp : Stamp} {content : Content} (yields : Yields stamp content)
    (name : String) (texts : List String) : content ≠ .filter name texts := by
  cases yields with
  | output puts => obtain ⟨_, _, rfl⟩ | ⟨_, _, _, _, rfl⟩ := puts <;> nofun
  | doctype | element | htmlComment | authorComment | silentScript => nofun

namespace Template

open FilterBlock

/-- From line `lineno` on the source has the line that opens this filter, the lines of its body, some
empty lines, and the rest. A line that follows has text and is not deeper than the filter. The empty
lines have the nodes made after that of the filter. -/
structure Transcribes (source : List Char) (arena : Arena) (id : NodeId) (lineno : Nat)
    (name : String) (texts : List String) (opener : List Char) (body : List (List Char))
    (blanks : Nat) (rest : List (List Char)) : Prop where
  positive : 0 < lineno
  laid : ((lines source).map trimEnd).drop (lineno - 1) =
    opener :: (body ++ (List.replicate blanks [] ++ rest))
  named : (split opener).2 = ':' :: name.toList
  verbatim : ∃ width, levelOf opener < width ∧ Verbatim width body texts
  cut : texts.getLast? ≠ some ""
  ended : ∀ line ∈ rest.head?, line ≠ [] ∧ levelOf line ≤ levelOf opener
  placeholders : ∀ index < blanks, arena.content? (id + 1 + index) = some .blank ∧
    arena.lineno (id + 1 + index) = lineno + texts.length + 1 + index

/-- All filters are as the source has them. -/
def Transcribed (source : List Char) (arena : Arena) : Prop :=
  ∀ id stamp name texts, arena.node? id = some ⟨stamp, .filter name texts⟩ →
    ∃ opener body blanks rest,
      Transcribes source arena id stamp.lineno name texts opener body blanks rest

variable {source : List Char} {arena after : Arena}

/-- Nodes that are there stay, so a filter stays as it is. -/
theorem Transcribed.grow (transcribed : Transcribed source arena)
    (old : ∀ id < arena.size, after.node? id = arena.node? id)
    (new : ∀ id stamp name texts, arena.size ≤ id →
      after.node? id = some ⟨stamp, .filter name texts⟩ →
        ∃ opener body blanks rest,
          Transcribes source after id stamp.lineno name texts opener body blanks rest) :
    Transcribed source after := by
  intro id stamp name texts found
  by_cases fresh : arena.size ≤ id
  · exact new id stamp name texts fresh found
  rw [old id (Nat.not_le.1 fresh)] at found
  obtain ⟨opener, body, blanks, rest, known⟩ := transcribed id stamp name texts found
  refine ⟨opener, body, blanks, rest, { known with placeholders := fun index within => ?_ }⟩
  obtain ⟨blank, numbered⟩ := known.placeholders index within
  have same := old _ (Arena.lt_size_of_content? blank)
  exact ⟨(Arena.content?_congr same).trans blank, (Arena.lineno_congr same).trans numbered⟩

namespace State

/-- Blank nodes are numbered in the order of their lines, from the first number not in use. -/
theorem node?_addBlanks (state : State) (first count id : Nat) :
    (state.addBlanks (List.range' first count)).arena.node? id =
      if id < state.arena.size then state.arena.node? id
      else if id < state.arena.size + count then
        some ⟨state.stampAt (first + (id - state.arena.size)), .blank⟩
      else none := by
  induction count generalizing state first with
  | zero =>
      split
      · rfl
      · rename_i unused
        rw [if_neg (by omega)]
        exact (Arena.node?_eq_none_iff ..).2 (Nat.not_lt.1 unused)
  | succ count ih =>
      rw [List.range'_succ, addBlanks_cons, ih]
      simp only [addNode, Arena.size_append, Arena.node?_append]
      rcases Nat.lt_trichotomy id state.arena.size with stored | rfl | fresh
      · rw [if_pos (by omega), if_neg (by omega), if_pos stored]
      · simp
      · have number : first + 1 + (id - (state.arena.size + 1)) = first + (id - state.arena.size) := by
          omega
        rw [number, if_neg (Nat.not_lt.2 fresh), if_neg (Nat.not_lt.2 (Nat.le_of_lt fresh))]
        exact if_congr (by omega) rfl rfl

theorem node?_addFilter (state : State) (block : Finished) (last id : Nat) :
    (state.addFilter block last).arena.node? id =
      if id < state.arena.size then state.arena.node? id
      else if id = state.arena.size then some block.node
      else if id < state.arena.size + 1 + block.trailingBlanks then
        some ⟨state.stampAt (last + 1 - block.trailingBlanks + (id - (state.arena.size + 1))), .blank⟩
      else none := by
  rw [addFilter, node?_addBlanks]
  simp only [addNode, Arena.size_append, Arena.node?_append]
  rcases Nat.lt_trichotomy id state.arena.size with stored | rfl | fresh
  · rw [if_pos (by omega), if_neg (by omega), if_pos stored]
  · simp
  · rw [if_neg (Nat.not_lt.2 fresh), if_neg (Nat.not_lt.2 (Nat.le_of_lt fresh)),
      if_neg (Nat.ne_of_gt fresh)]
    rfl

/-- The filter on this level has gathered the lines up to `last`, and the next line, if there is one,
ends it. -/
structure Completes (source : List Char) (draft : Draft) (level : Nat) (bodyIndent : Option Nat)
    (last : Nat) : Prop where
  opens : Opens source draft level
  reach : draft.stamp.lineno + draft.texts.length = last
  gathers : Gathers level bodyIndent ((((lines source).map trimEnd).drop draft.stamp.lineno).take
    draft.texts.length) draft.texts
  ended : ∀ line ∈ (((lines source).map trimEnd).drop last).head?, line ≠ [] ∧ levelOf line ≤ level

variable {state : State} {draft : Draft} {level last : Nat} {bodyIndent : Option Nat}

/-- A filter that is complete is made as the source has it. -/
theorem transcribes_addFilter (completes : Completes source draft level bodyIndent last) :
    ∃ opener body blanks rest, Transcribes source (state.addFilter draft.finish last).arena
      state.arena.size draft.stamp.lineno draft.name draft.finish.texts opener body blanks rest := by
  obtain ⟨⟨physical, positive, found, trimmed⟩, reach, gathers, ended⟩ := completes
  obtain ⟨width, deeper, verbatim⟩ := gathers.verbatim
  have length := congrArg List.length draft.texts_eq
  rw [List.length_append, List.length_replicate] at length
  -- the texts that are cut are those of empty lines, so the lines are cut in the same place
  rw [draft.texts_eq] at verbatim
  obtain ⟨body, collected, shown⟩ := verbatim.cut
  rw [← draft.texts_eq] at collected
  have opener : split (trimEnd physical) = (List.replicate level ' ', ':' :: draft.name.toList) := by
    rw [trimmed]
    exact split_of_indent (by simp [List.mem_replicate, isIndent]) rfl _
  have flush : levelOf (trimEnd physical) = level := by
    rw [levelOf, opener, List.length_replicate]
  refine ⟨trimEnd physical, body, draft.finish.trailingBlanks, ((lines source).map trimEnd).drop last,
    ⟨positive, ?_, by rw [opener], ⟨width, by rw [flush]; exact deeper, shown⟩,
      draft.getLast?_finish, by rw [flush]; exact ended, ?_⟩⟩
  · rw [drop_of_physicalLine? positive found, ← List.append_assoc, ← collected, ← reach,
      ← List.drop_drop, List.take_append_drop]
  · intro index within
    have node : (state.addFilter draft.finish last).arena.node? (state.arena.size + 1 + index) =
        some ⟨state.stampAt (draft.stamp.lineno + draft.finish.texts.length + 1 + index), .blank⟩ := by
      rw [node?_addFilter, if_neg (by omega), if_neg (by omega), if_pos (by omega)]
      congr 3
      omega
    constructor
    · simp [Arena.content?, node]
    · simp [Arena.lineno, node, stampAt]

theorem transcribed_addFilter (transcribed : Transcribed source state.arena)
    (completes : Completes source draft level bodyIndent last) :
    Transcribed source (state.addFilter draft.finish last).arena := by
  refine transcribed.grow (fun id stored => ?_) (fun id stamp name texts fresh found => ?_)
  · rw [node?_addFilter, if_pos stored]
  · rw [node?_addFilter, if_neg (Nat.not_lt.2 fresh)] at found
    split at found
    · rename_i newest
      subst newest
      cases found
      exact transcribes_addFilter completes
    · split at found
      · cases found
      · cases found

theorem transcribed_addNode (transcribed : Transcribed source state.arena) {node : Node}
    (plain : ∀ name texts, node.content ≠ .filter name texts) :
    Transcribed source (state.addNode node).arena := by
  refine transcribed.grow (fun id stored => ?_) (fun id stamp name texts fresh found => ?_)
  · exact Arena.node?_append_of_lt stored state.current node
  · change (state.arena.append state.current node).2.node? id = _ at found
    rw [Arena.node?_append] at found
    split at found
    · cases found
      exact absurd rfl (plain name texts)
    · rw [(Arena.node?_eq_none_iff ..).2 fresh] at found
      cases found

theorem transcribed_addBlanks (transcribed : Transcribed source state.arena) (linenos : List Nat) :
    Transcribed source (state.addBlanks linenos).arena := by
  induction linenos generalizing state with
  | nil => exact transcribed
  | cons lineno rest ih =>
      rw [addBlanks_cons]
      exact ih (transcribed_addNode transcribed nofun)

/-! ## The line that ends a filter -/

theorem youngest?_addBlanks (aligned : state.Aligned) (linenos : List Nat) :
    (state.addBlanks linenos).arena.youngest? state.current =
      state.arena.youngest? state.current := by
  induction linenos generalizing state with
  | nil => rfl
  | cons lineno rest ih =>
      rw [addBlanks_cons]
      refine (ih (aligned.addNode _)).trans ?_
      exact (aligned.rooted.youngest?_append aligned.container _).trans (if_pos rfl)

theorem youngest?_addFilter (aligned : state.Aligned) (block : Finished) (last : Nat) :
    (state.addFilter block last).arena.youngest? state.current = some state.arena.size :=
  (youngest?_addBlanks (aligned.addNode block.node) _).trans
    ((aligned.rooted.youngest?_append aligned.container _).trans (if_neg Bool.false_ne_true))

/-- The next line is given to the filter being read as it stands. -/
theorem opened_in_filter {line : List Char} {ready : State} (placed : state.Placed source)
    (found : state.filter.draft = some draft) (opened : state.opened = some (line, ready)) :
    ∃ feed rest, state.feed.pending = line :: rest ∧
      ((state.filter.append line state.indent.current).2 = none ∧
          ready = { state with
            feed, lineno := feed.lineno
            filter := (state.filter.append line state.indent.current).1 } ∨
        ∃ block, (state.filter.append line state.indent.current).2 = some block ∧
          ready = { state with
            feed, lineno := feed.lineno
            filter := (state.filter.append line state.indent.current).1 }.addFilter block
              (feed.lineno - 1)) := by
  have filtering : state.inFilter = true := by
    simp [inFilter, (placed.filter draft found).1, Collector.isOpen, found]
  obtain ⟨feed, took, taking⟩ := opened_cases opened
  rw [filtering] at took taking
  obtain ⟨⟨rest, pending⟩, -⟩ := Feed.nextRaw_eq took
  obtain ⟨plain, -⟩ | ⟨-, taking⟩ := taking
  · cases plain
  · exact ⟨feed, rest, pending, taking⟩

/-- A line that ends a filter has text and is not deeper than the filter. A line between the level of
the filter and the width of its body would go below the filter, where nothing may stand. -/
theorem Reads.closes {line physical : List Char} {feed : Feed} {ready entered : State}
    (reads : Reads source state line physical feed ready entered) (aligned : state.Aligned)
    (placed : state.Placed source) (found : state.filter.draft = some draft) :
    (∃ rest, state.feed.pending = line :: rest) ∧ (split line).2 ≠ [] ∧
      levelOf line ≤ state.indent.current := by
  obtain ⟨feed, rest, pending, ⟨goesOn, same⟩ | ⟨block, ends, same⟩⟩ :=
    opened_in_filter placed found reads.opened
  · obtain ⟨text, grown⟩ := Collector.append_eq_none found goesOn
    have closed := reads.readied.frame.2
    rw [same] at closed
    cases grown.symm.trans closed
  have solid := Collector.solid_of_append ends
  refine ⟨⟨rest, pending⟩, solid, ?_⟩
  have begun := reads.started_aligned aligned
  have level : (ready.started line).indent = state.indent := reads.readied.indent_eq
  have followed := reads.followed
  rw [(placed.position.unfolded pending).1] at followed
  rw [← level]
  cases followed with
  | stay why =>
      rcases why with gone | flush | ⟨comment, inside, -⟩
      · exact absurd gone solid
      · exact Nat.le_of_eq flush
      · have outside := aligned.comment
        rw [(placed.filter draft found).1, Tracker.inComment, ← level, inside] at outside
        cases outside
  | leave _ lower _ _ => exact Nat.le_of_lt lower
  | enter _ higher _ enters =>
      obtain ⟨target, youngest, legal, -, -⟩ := enter_cases enters begun.container
      have filter : (ready.started line).arena.youngest? (ready.started line).current =
          some state.arena.size := by
        rw [same, started, addFilter_frame]
        exact youngest?_addFilter (aligned.growth (.note ..)) block _
      have content : (ready.started line).arena.content? state.arena.size =
          some (.filter block.name block.texts) := by
        rw [same, started, Arena.content?]
        simp [node?_addFilter, Finished.node]
      cases filter.symm.trans youngest
      cases legal _ content

/-! ## Whole readings -/

/-- The filters made so far are as the source has them, and the lines that the filter being read has
taken are gathered. -/
structure Transcribing (source : List Char) (state : State) : Prop where
  made : Transcribed source state.arena
  gathered : ∀ draft, state.filter.draft = some draft →
    Gathers state.indent.current state.filter.bodyIndent
      ((((lines source).map trimEnd).drop draft.stamp.lineno).take draft.texts.length) draft.texts

namespace Transcribing

variable {next : State}

theorem ofSource (source : List Char) (filename : Option String) :
    Transcribing source (State.ofSource source filename) where
  made id stamp name texts found := by
    rcases id with _ | id
    · cases found
    · cases found
  gathered draft found := by cases found

/-- When a line is read, the filter that it ended, if any, is made. -/
theorem reads (transcribing : Transcribing source state) (aligned : state.Aligned)
    (placed : state.Placed source) (dated : state.Dated) {line physical : List Char} {feed : Feed}
    {ready entered : State} (reads : Reads source state line physical feed ready entered) :
    Transcribed source entered.arena := by
  have before : Transcribed source ready.arena := by
    cases reads.readied with
    | idle closed => exact transcribing.made
    | @closing draft found outside single =>
        have number : feed.lineno - 1 = state.feed.lineno := by
          rw [reads.taken.lineno_eq, single]
          rfl
        obtain ⟨⟨rest, pending⟩, solid, shallow⟩ := reads.closes aligned placed found
        have made : Transcribed source
          { state with feed, lineno := feed.lineno, filter := {} }.arena := transcribing.made
        rw [number]
        refine transcribed_addFilter made ⟨(placed.filter draft found).2,
          (dated.opened draft found).2, transcribing.gathered draft found, ?_⟩
        rw [← placed.position, pending]
        rintro _ ⟨⟩
        refine ⟨?_, shallow⟩
        rintro rfl
        exact solid rfl
  obtain ⟨sameSize, sameNode⟩ := reads.followed.nodes (reads.started_aligned aligned).container
  refine before.grow (fun id _ => sameNode id) fun id stamp name texts fresh found => ?_
  rw [(Arena.node?_eq_none_iff ..).2 (sameSize ▸ fresh : entered.arena.size ≤ id)] at found
  cases found

/-- No filter is open when a line has been read that opens none. -/
theorem folded {after : State} (made : Transcribed source after.arena)
    (closed : after.filter.draft = none) (linenos : List Nat) :
    Transcribing source (after.addBlanks linenos) := by
  refine ⟨transcribed_addBlanks made linenos, fun draft found => ?_⟩
  rw [addBlanks_frame] at found
  cases closed.symm.trans found

/-- A line that joins the filter is gathered. -/
theorem collect (transcribing : Transcribing source state) (placed : state.Placed source)
    (dated : state.Dated) {line : List Char} {feed : Feed} {filter : Collector}
    (opened : state.opened = some (line, { state with feed, filter, lineno := feed.lineno }))
    (found : state.filter.draft = some draft) (isOpen : filter.draft ≠ none) :
    Transcribing source { state with feed, filter, lineno := feed.lineno } := by
  refine ⟨transcribing.made, fun now same => ?_⟩
  obtain ⟨_, rest, pending, ⟨goesOn, ready⟩ | ⟨block, ends, ready⟩⟩ :=
    opened_in_filter placed found opened
  · obtain rfl : filter = (state.filter.append line state.indent.current).1 :=
      congrArg State.filter ready
    obtain ⟨physical, -, trimmed⟩ := placed.position.physical pending
    obtain ⟨text, grown, gathered⟩ := (transcribing.gathered draft found).append found
      (trimmed ▸ eq_nil_of_split_trimEnd) goesOn
    cases grown.symm.trans same
    have length : (draft.push text).texts.length = draft.texts.length + 1 := by simp [Draft.push]
    have newest : (((lines source).map trimEnd).drop draft.stamp.lineno)[draft.texts.length]? =
        some line := by
      rw [List.getElem?_drop, (dated.opened draft found).2, ← List.head?_drop, ← placed.position,
        pending]
      rfl
    rw [length, List.take_add_one]
    change Gathers _ _ (_ ++ (((lines source).map trimEnd).drop draft.stamp.lineno)[_]?.toList) _
    rw [newest]
    exact gathered
  · have closed := congrArg (fun state : State => state.filter.draft) ready
    rw [addFilter_frame, (Collector.append_eq_some found ends).2] at closed
    exact absurd closed isOpen

theorem step (transcribing : Transcribing source state) (aligned : state.Aligned)
    (placed : state.Placed source) (dated : state.Dated) (stepped : state.Stepped source next) :
    Transcribing source next := by
  cases stepped with
  | @collect draft text line physical feed filter opened found outside taken single grown =>
      exact transcribing.collect placed dated opened found (by rw [grown]; nofun)
  | @read line physical feed ready entered after reads told =>
      have before := transcribing.reads aligned placed dated reads
      have closed := reads.closed
      cases told with
      | blank gone => exact folded (transcribed_addNode before (by nofun)) closed _
      | remark solid inside => exact folded (transcribed_addNode before (by nofun)) closed _
      | @node content feed solid outside moved filled reading =>
          have made : Transcribed source { entered with feed }.arena := before
          exact folded (transcribed_addNode made (Line.read_yields (congrArg Prod.fst reading)).ne_filter)
            closed _
      | filter outside named word =>
          have single := (Placed.opens aligned reads outside named word).1
          rw [single]
          refine ⟨before, fun draft found => ?_⟩
          cases found
          exact .blanks 0
      | @nothing feed solid outside moved void =>
          have made : Transcribed source { entered with feed }.arena := before
          exact folded made closed _

end Transcribing

end State

variable {filename : Option String}

/-- Between any two lines the filters made are as the source has them. -/
theorem Reached.transcribing {state : State} (reached : Reached source filename state) :
    state.Transcribing source := by
  induction reached with
  | start => exact .ofSource source filename
  | step reached more steps ih =>
      exact ih.step reached.aligned reached.placed reached.dated
        (State.step_stepped reached.placed more steps)

theorem transcribed_of_parse (accepted : parse source filename = .ok arena) :
    Transcribed source arena := by
  obtain ⟨last, -, reached, exhausted, rfl⟩ := parse_cases accepted
  have transcribing := reached.transcribing
  rcases State.flushed_cases last with ⟨-, same⟩ | ⟨draft, found, same⟩
  · rw [same]
    exact transcribing.made
  · have made : Transcribed source { last with filter := {} }.arena := transcribing.made
    have gone := Feed.hasNext_eq_false.1 exhausted
    rw [same]
    refine State.transcribed_addFilter made ⟨(reached.placed.filter draft found).2,
      (reached.dated.opened draft found).2, transcribing.gathered draft found, ?_⟩
    rw [← reached.placed.position, gone]
    intro line found
    cases found

/-- The body of a filter is kept as it is written, and all of it. The texts of a filter node are the
lines below the filter's line, each from the width of the first one that has text; the last text is
not empty; the next line with text is not deeper than the filter; and each empty line before that one
has one node, made after the filter's in order of the lines. -/
theorem parse_transcribes_filters (accepted : parse source filename = .ok arena) {id : NodeId}
    {stamp : Stamp} {name : String} {texts : List String}
    (found : arena.node? id = some ⟨stamp, .filter name texts⟩) :
    ∃ opener body blanks rest,
      Transcribes source arena id stamp.lineno name texts opener body blanks rest ∧
        ∀ index < blanks, ∀ other,
          arena.lineno other = stamp.lineno + texts.length + 1 + index → other = id + 1 + index := by
  obtain ⟨opener, body, blanks, rest, known⟩ :=
    transcribed_of_parse accepted id stamp name texts found
  refine ⟨opener, body, blanks, rest, known, ?_⟩
  intro index within other numbered
  obtain ⟨bound, dated⟩ := datedTo_of_parse accepted
  obtain ⟨blank, same⟩ := known.placeholders index within
  have stored := Arena.lt_size_of_content? blank
  -- numbers not in use are on line 0
  have otherStored : other < arena.size := by
    by_contra unused
    have gone : arena.node? other = none := (Arena.node?_eq_none_iff ..).2 (Nat.not_lt.1 unused)
    have zero : arena.lineno other = 0 := by
      rw [Arena.lineno, gone]
      rfl
    omega
  rcases Nat.lt_trichotomy other (id + 1 + index) with older | equal | younger
  · have := dated.increasing older stored
    omega
  · exact equal
  · have := dated.increasing younger otherStored
    omega

/-- A filter inside an element: its body has a blank line, a deeper line and signs that continue a
line elsewhere, and two blank lines stand between it and the line that ends it. -/
theorem parse_transcribes_filters_in_element :
    ∃ arena, parse "%p\n  :css\n    a,\n\n      b |\n \n\n  c\n".toList = .ok arena ∧
      arena.node? 2 = some ⟨⟨none, 2⟩, .filter "css" ["a,", "", "  b |"]⟩ ∧
      ∃ opener body blanks rest,
        Transcribes "%p\n  :css\n    a,\n\n      b |\n \n\n  c\n".toList arena 2 2 "css"
            ["a,", "", "  b |"] opener body blanks rest ∧
          ∀ index < blanks, ∀ other, arena.lineno other = 2 + 3 + 1 + index → other = 2 + 1 + index := by
  have node : (parse "%p\n  :css\n    a,\n\n      b |\n \n\n  c\n".toList).toOption.bind (·.node? 2) =
      some ⟨⟨none, 2⟩, .filter "css" ["a,", "", "  b |"]⟩ := by
    decide +kernel
  cases accepted : parse "%p\n  :css\n    a,\n\n      b |\n \n\n  c\n".toList with
  | error fault => rw [accepted] at node; cases node
  | ok arena =>
      rw [accepted] at node
      exact ⟨arena, rfl, node, parse_transcribes_filters accepted node⟩

end Template

end HamlTree
