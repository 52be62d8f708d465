import HamlTree.Proofs.Dispatch

/-!
# LineRewriting -- two spellings of one line

`insertText inserted line` puts characters between the indentation of a line and its text. In front of
a text that starts with a class or an id that may be `%div`, and in front of plain text a backslash:
the line means the same, and so does the template it stands in (`parse_insertText`).

That the line means the same is the smaller part (`Line.read_div`, `Line.read_escaped`). Other readers
look at a line before its text is read: the feed asks whether it is piped, the tracker how deep it is
indented, and a filter whether it is over. None of them sees characters that are `Inert`, so the step
that takes the line does what it did (`Dispatches.step_insertText`), and all steps before it never came
to the line.
-/

set_option autoImplicit false

namespace HamlTree

open Text

/-! ## Putting characters in front of a line's text -/

namespace Indentation

/-- The line with some characters between its indentation and its text. -/
def insertText (inserted line : List Char) : List Char :=
  (split line).1 ++ inserted ++ (split line).2

/-- Characters that show in nothing but the text they are put in front of: no pipe and no line feed is
among them, they start with no indentation, and they do not end like a block's argument list
starts. -/
structure Inert (inserted : List Char) : Prop where
  unpiped : '|' ∉ inserted
  unbroken : '\n' ∉ inserted
  front : ∃ first rest, inserted = first :: rest ∧ isIndent first = false
  back : ∃ before last, inserted = before ++ [last] ∧ isSpace last = false ∧ last ≠ 'o' ∧ last ≠ 'd'

section Split

variable {inserted indent line tail : List Char} {c : Char}

/-- A line with text is its indentation, a first character and the rest. -/
theorem exists_text (solid : (split line).2 ≠ []) :
    ∃ indent c tail, line = indent ++ c :: tail ∧ (∀ blank ∈ indent, isIndent blank = true) ∧
      isIndent c = false ∧ split line = (indent, c :: tail) := by
  obtain ⟨c, tail, text⟩ := List.exists_cons_of_ne_nil solid
  refine ⟨(split line).1, c, tail, ?_, fun _ => List.mem_takeWhile_imp, isIndent_of_split text, ?_⟩
  · rw [← text, split_append]
  · rw [← text]

theorem insertText_of_indent (indents : ∀ blank ∈ indent, isIndent blank = true)
    (stops : isIndent c = false) (tail : List Char) :
    insertText inserted (indent ++ c :: tail) = indent ++ inserted ++ c :: tail := by
  rw [insertText, split_of_indent indents stops]

/-- The indentation stays, and the text has the characters in front. -/
theorem split_insertText (inert : Inert inserted) (line : List Char) :
    split (insertText inserted line) = ((split line).1, inserted ++ (split line).2) := by
  obtain ⟨first, rest, rfl, stops⟩ := inert.front
  rw [insertText, List.append_assoc]
  exact split_of_indent (fun _ => List.mem_takeWhile_imp) stops _

theorem split_append_behind (solid : (split line).2 ≠ []) (behind : List Char) :
    split (line ++ behind) = ((split line).1, (split line).2 ++ behind) := by
  obtain ⟨indent, c, tail, rfl, indents, stops, same⟩ := exists_text solid
  rw [same, List.append_assoc]
  exact split_of_indent indents stops (tail ++ behind)

/-- What stands behind a line with text stays there. -/
theorem insertText_append (solid : (split line).2 ≠ []) (behind : List Char) :
    insertText inserted (line ++ behind) = insertText inserted line ++ behind := by
  rw [insertText, insertText, split_append_behind solid, List.append_assoc _ _ behind]

theorem count_insertText (inert : Inert inserted) (line : List Char) :
    (insertText inserted line).count '\n' = line.count '\n' := by
  have unbroken := List.count_eq_zero_of_not_mem inert.unbroken
  conv_rhs => rw [← split_append line]
  rw [insertText, List.count_append, List.count_append, List.count_append, unbroken, Nat.add_zero]

/-- The line feeds of a line with text are all in the text. -/
theorem split_filter (text : (split line).2 = c :: tail) (notFeed : c ≠ '\n') :
    split (line.filter (· != '\n')) = ((split line).1, (split line).2.filter (· != '\n')) := by
  have kept : (split line).1.filter (· != '\n') = (split line).1 := by
    rw [List.filter_eq_self]
    intro x member
    have indents : isIndent x = true := List.mem_takeWhile_imp member
    simp only [bne_iff_ne]
    rintro rfl
    cases indents
  conv_lhs => rw [← split_append line]
  rw [List.filter_append, kept, text, List.filter_cons_of_pos (by simpa using notFeed)]
  exact split_of_indent (fun _ => List.mem_takeWhile_imp) (isIndent_of_split text) _

theorem filter_insertText (inert : Inert inserted) (text : (split line).2 = c :: tail)
    (notFeed : c ≠ '\n') :
    (insertText inserted line).filter (· != '\n') =
      insertText inserted (line.filter (· != '\n')) := by
  have unbroken : inserted.filter (· != '\n') = inserted := by
    rw [List.filter_eq_self]
    intro x member
    simp only [bne_iff_ne]
    exact fun feed => inert.unbroken (feed ▸ member)
  have filtered := split_filter text notFeed
  have indent : (split line).1.filter (· != '\n') = (split line).1 := by
    have joined := split_append (line.filter (· != '\n'))
    rw [filtered] at joined
    conv at joined => rhs; rw [← split_append line, List.filter_append]
    exact (List.append_cancel_right joined).symm
  rw [insertText, insertText, filtered, List.filter_append, List.filter_append, unbroken, indent]

/-- What is cut from the end of a line does not matter, if its text starts with something visible. -/
theorem trimEnd_insertText (text : (split (trimEnd line)).2 = c :: tail)
    (visible : isSpace c = false) :
    trimEnd (insertText inserted line) = insertText inserted (trimEnd line) := by
  obtain ⟨indent, first, rest, shape, indents, stops, same⟩ :=
    exists_text (by rw [text]; exact List.cons_ne_nil _ _)
  obtain ⟨rfl, rfl⟩ := List.cons.inj ((congrArg Prod.snd same).symm.trans text)
  obtain ⟨cut, joined⟩ := trimEnd_initial line
  rw [shape, List.append_assoc, List.cons_append] at joined
  -- the text itself, with what is cut from it
  have left : (first :: (rest ++ cut)).rdropWhile isSpace ≠ [] := by
    intro gone
    have spaces := List.rdropWhile_eq_nil_iff.1 gone first List.mem_cons_self
    rw [visible] at spaces
    cases spaces
  have trimmed : ∀ front : List Char, trimEnd (front ++ first :: (rest ++ cut)) =
      front ++ (first :: (rest ++ cut)).rdropWhile isSpace :=
    fun front => rdropWhile_append_of_ne_nil left
  have kept : (first :: (rest ++ cut)).rdropWhile isSpace = first :: rest := by
    have := trimmed indent
    rw [joined, shape] at this
    exact (List.append_cancel_left this).symm
  rw [shape, insertText_of_indent indents stops, ← joined, insertText_of_indent indents stops,
    trimmed, kept]

end Split

/-- Following looks at a line's indentation and at whether there is text. -/
theorem Tracker.process_congr {tracker : Tracker} {line other : List Char}
    (indent : (split other).1 = (split line).1)
    (solid : (split line).2 ≠ []) (otherSolid : (split other).2 ≠ []) :
    tracker.process other =
      ((tracker.process line).1, (tracker.process line).2.map fun processed =>
        { processed with text := (split other).2 }) := by
  have gone : (split line).2.isEmpty = false := by simpa using solid
  have otherGone : (split other).2.isEmpty = false := by simpa using otherSolid
  unfold process
  dsimp only
  rw [indent, gone, otherGone]
  by_cases tabs : (split line).1.contains '\t' = true
  · rw [if_pos tabs, if_pos tabs]
    rfl
  · rw [if_neg tabs, if_neg tabs]
    rcases tracker.track (split line).1.length with ⟨after, _ | _⟩
    · rfl
    · rfl

end Indentation

open Indentation

/-! ## Pipes -/

section Pipes

variable {inserted indent line tail : List Char} {c : Char}

/-- A list of block arguments is not made or unmade by what stands before it. -/
theorem closesBlockArguments_append {margin : List Char} (unpiped : '|' ∉ margin)
    (notO : (margin.dropWhile isSpace).head? ≠ some 'o') (notD : margin.head? ≠ some 'd')
    (backwards : List Char) :
    closesBlockArguments (backwards ++ margin) = closesBlockArguments backwards := by
  have passed : margin.dropWhile (· != '|') = [] := by
    rw [List.dropWhile_eq_nil_iff]
    intro x member
    simp only [bne_iff_ne]
    exact fun pipe => unpiped (pipe ▸ member)
  unfold closesBlockArguments
  rw [List.dropWhile_append, passed]
  rcases backwards.dropWhile (· != '|') with _ | ⟨pipe, arguments⟩
  · rfl
  rw [if_neg (by simp), List.cons_append]
  by_cases isPipe : pipe = '|'
  · subst isPipe
    simp only [List.dropWhile_append]
    rcases arguments.dropWhile isSpace with _ | ⟨x, _ | ⟨y, others⟩⟩
    · rcases rest : margin.dropWhile isSpace with _ | ⟨x, others⟩
      · rfl
      · have other : x ≠ 'o' := by simpa [rest] using notO
        simp [other]
    · cases margin with
      | nil => rfl
      | cons y others =>
          have other : y ≠ 'd' := by simpa using notD
          simp [other]
    · by_cases first : x = 'o' <;> by_cases second : y = 'd' <;> simp [first, second]
  · simp [isPipe]

theorem isPiped_of_reverse {x y : Char} {before : List Char}
    (reversed : line.reverse = x :: y :: before) :
    isPiped line = (x == '|' && y == ' ' && !closesBlockArguments before) := by
  unfold isPiped
  rw [reversed]
  by_cases pipe : x = '|' <;> by_cases blank : y = ' ' <;> simp [pipe, blank]

theorem isPiped_eq_false (last : line.getLast? ≠ some '|') : isPiped line = false := by
  rw [Bool.eq_false_iff]
  intro piped
  obtain ⟨before, rfl⟩ := isPiped_eq piped
  simp at last

/-- A piped line whose text is more than the pipe has text before it. -/
theorem exists_of_isPiped (piped : isPiped line = true) (notPipe : (split line).2 ≠ ['|']) :
    ∃ c rest, (split line).2 = c :: (rest ++ [' ', '|']) := by
  obtain ⟨before, shape⟩ := isPiped_eq piped
  have ends : [' ', '|'] <:+ line := ⟨before, shape.symm⟩
  have text : (split line).2 <:+ line := List.dropWhile_suffix _
  have starts : ∀ {tail}, (split line).2 ≠ ' ' :: tail := by
    intro tail blank
    cases isIndent_of_split blank
  rcases List.suffix_or_suffix_of_suffix text ends with short | ⟨front, long⟩
  · simp only [List.suffix_cons_iff, List.suffix_nil] at short
    rcases short with same | same | gone
    · exact absurd same starts
    · exact absurd same notPipe
    · -- the pipe is no indentation
      have blank : ∀ c ∈ line, isIndent c = true := by simpa [split] using gone
      cases blank '|' (by simp [shape])
  · rcases front with _ | ⟨c, rest⟩
    · exact absurd long.symm starts
    · exact ⟨c, rest, long.symm⟩

/-- The line stays piped, or unpiped, unless its text is a pipe and nothing else. -/
theorem isPiped_insertText (inert : Inert inserted) (solid : (split line).2 ≠ [])
    (notPipe : (split line).2 ≠ ['|']) : isPiped (insertText inserted line) = isPiped line := by
  obtain ⟨indent, c, tail, rfl, indents, stops, same⟩ := exists_text solid
  rw [insertText_of_indent indents stops]
  rcases reversed : tail.reverse with _ | ⟨x, _ | ⟨y, others⟩⟩
  · -- a single character that is no pipe
    have gone : tail = [] := by simpa using reversed
    have other : c ≠ '|' := by
      rintro rfl
      rw [same, gone] at notPipe
      exact notPipe rfl
    rw [isPiped_eq_false, isPiped_eq_false] <;> simp [gone, other]
  · have single : (indent ++ c :: tail).reverse = x :: c :: indent.reverse := by simp [reversed]
    have inserts : (indent ++ inserted ++ c :: tail).reverse =
        x :: c :: (inserted.reverse ++ indent.reverse) := by simp [reversed]
    have notBlank : (c == ' ') = false := by
      rw [beq_eq_false_iff_ne]
      rintro rfl
      cases stops
    rw [isPiped_of_reverse single, isPiped_of_reverse inserts, notBlank]
    simp
  · have plain : (indent ++ c :: tail).reverse = x :: y :: (others ++ [c] ++ indent.reverse) := by
      simp [reversed]
    have inserts : (indent ++ inserted ++ c :: tail).reverse =
        x :: y :: (others ++ [c] ++ (inserted.reverse ++ indent.reverse)) := by
      simp [reversed]
    have blanks : ∀ blank ∈ indent.reverse, isIndent blank = true :=
      fun blank member => indents blank (List.mem_reverse.1 member)
    have margin : '|' ∉ indent.reverse := fun member => by cases blanks _ member
    obtain ⟨before, last, shape, visible, notO, notD⟩ := inert.back
    rw [isPiped_of_reverse plain, isPiped_of_reverse inserts, closesBlockArguments_append,
      closesBlockArguments_append margin]
    · rw [List.dropWhile_eq_nil_iff.2 fun x member => isSpace_of_isIndent (blanks x member)]
      simp
    · intro first
      cases blanks _ (List.mem_of_mem_head? first)
    · rw [List.mem_append, List.mem_reverse]
      exact fun member => member.elim inert.unpiped margin
    · simp [shape, visible, notO]
    · simp [shape, notD]

theorem cutPipe_insertText (inserted : List Char) (piped : isPiped line = true)
    (notPipe : (split line).2 ≠ ['|']) :
    cutPipe (insertText inserted line) = insertText inserted (cutPipe line) ∧
      2 ≤ (split (cutPipe line)).2.length ∧
      (split (cutPipe line)).2.take 2 = (split line).2.take 2 := by
  obtain ⟨c, rest, text⟩ := exists_of_isPiped piped notPipe
  obtain ⟨indent, first, tail, rfl, indents, stops, same⟩ :=
    exists_text (by rw [text]; exact List.cons_ne_nil _ _)
  obtain ⟨rfl, rfl⟩ := List.cons.inj ((congrArg Prod.snd same).symm.trans text)
  have cut : cutPipe (indent ++ first :: (rest ++ [' ', '|'])) =
      indent ++ first :: (rest ++ [' ']) := by
    simpa using cutPipe_append (indent ++ first :: (rest ++ [' ']))
  have insertedCut : cutPipe (indent ++ inserted ++ first :: (rest ++ [' ', '|'])) =
      indent ++ inserted ++ first :: (rest ++ [' ']) := by
    simpa using cutPipe_append (indent ++ inserted ++ first :: (rest ++ [' ']))
  rw [insertText_of_indent indents stops, insertedCut, cut, insertText_of_indent indents stops,
    split_of_indent indents stops, split_of_indent indents stops]
  refine ⟨rfl, by simp, ?_⟩
  cases rest <;> rfl

end Pipes

/-- The feed hands out the line as before, but for the inserted characters, and the same lines are
left. -/
theorem Feed.take_insertText {inserted first line : List Char} {rest : List (List Char)}
    {feed after : Feed} {raw : Bool} (inert : Inert inserted) (solid : (split first).2 ≠ [])
    (notPipe : (split first).2 ≠ ['|']) (pending : feed.pending = first :: rest)
    (taken : feed.take raw = some (line, after)) :
    { feed with pending := insertText inserted first :: rest }.take raw =
        some (insertText inserted line, after) ∧
      (split line).2 ≠ [] ∧ (split line).2.take 2 = (split first).2.take 2 := by
  cases raw with
  | true =>
      simp only [take, nextRaw, pending, if_true, Option.some.injEq, Prod.mk.injEq] at taken ⊢
      obtain ⟨rfl, rfl⟩ := taken
      exact ⟨⟨rfl, rfl⟩, solid, rfl⟩
  | false =>
      simp only [take, next, pending, Bool.false_eq_true, if_false] at taken ⊢
      rw [isPiped_insertText inert solid notPipe]
      by_cases piped : isPiped first = true
      · simp only [piped, if_true, Option.some.injEq, Prod.mk.injEq] at taken ⊢
        obtain ⟨rfl, rfl⟩ := taken
        obtain ⟨cut, long, start⟩ := cutPipe_insertText inserted piped notPipe
        have cutSolid : (split (cutPipe first)).2 ≠ [] := List.ne_nil_of_length_pos (by omega)
        rw [foldPiped_eq, foldPiped_eq, cut, insertText_append cutSolid,
          split_append_behind cutSolid, List.take_append_of_le_length long]
        exact ⟨⟨rfl, rfl⟩, List.append_ne_nil_of_left_ne_nil cutSolid _, start⟩
      · rw [if_neg piped] at taken ⊢
        cases taken
        exact ⟨rfl, solid, rfl⟩

/-! ## Filters -/

/-- A line that ends a filter does so by its indentation. -/
theorem FilterBlock.Collector.append_congr {collector : Collector} {line other : List Char}
    {level : Nat} {block : Finished} (indent : (split other).1 = (split line).1)
    (solid : (split other).2 ≠ [])
    (ends : (collector.append line level).2 = some block) :
    collector.append other level = collector.append line level := by
  unfold append at ends ⊢
  dsimp only at ends ⊢
  by_cases gone : (split line).2.isEmpty = true
  · rw [if_pos gone] at ends
    cases ends
  rw [if_neg gone] at ends ⊢
  rw [if_neg (by simpa using solid), indent]
  cases body : collector.bodyIndent with
  | some width =>
      rw [body] at ends
      dsimp only at ends ⊢
      by_cases shallow : (split line).1.length < width
      · rw [if_pos shallow, if_pos shallow]
      · rw [if_neg shallow] at ends
        cases ends
  | none =>
      rw [body] at ends
      dsimp only at ends ⊢
      by_cases deep : level < (split line).1.length
      · rw [if_pos deep] at ends
        cases ends
      · rw [if_neg deep, if_neg deep]

/-! ## Reading the text -/

namespace Line

/-- The text starts with a class or an id. -/
def StartsSelector (text : List Char) : Prop :=
  text[0]? = some '.' ∨ text[0]? = some '#' ∧ text[1]? ≠ some '{'

/-- The text is put out as it stands: it starts with no white space, with no sign, and with `#` only
as part of an interpolation. -/
def StartsPlain (text : List Char) : Prop :=
  ∃ c, text[0]? = some c ∧ isSpace c = false ∧
    c ∉ ['\\', '%', '/', '-', '.', ':', '=', '~', '&', '!'] ∧ (c = '#' → text[1]? = some '{')

theorem StartsSelector.visible {text : List Char} (selects : StartsSelector text) :
    ∃ c tail, text = c :: tail ∧ isSpace c = false := by
  rcases text with _ | ⟨c, tail⟩
  · simp [StartsSelector] at selects
  · refine ⟨c, tail, rfl, ?_⟩
    rcases selects with dot | ⟨hash, -⟩
    · obtain rfl : c = '.' := by simpa using dot
      decide
    · obtain rfl : c = '#' := by simpa using hash
      decide

theorem StartsPlain.visible {text : List Char} (plain : StartsPlain text) :
    ∃ c tail, text = c :: tail ∧ isSpace c = false := by
  obtain ⟨c, first, visible, -⟩ := plain
  rcases text with _ | ⟨start, tail⟩
  · cases first
  · obtain rfl : start = c := by simpa using first
    exact ⟨start, tail, rfl, visible⟩

theorem StartsSelector.notPipe {text : List Char} (selects : StartsSelector text) :
    text ≠ ['|'] := by
  rintro rfl
  simp [StartsSelector] at selects

/-- What a text starts with shows in its first two characters. -/
theorem getElem?_of_take {text other : List Char} (same : other.take 2 = text.take 2) :
    other[0]? = text[0]? ∧ other[1]? = text[1]? := by
  have first := congrArg (·[0]?) same
  have second := congrArg (·[1]?) same
  simp only [List.getElem?_take_of_lt (show 0 < 2 by omega)] at first
  simp only [List.getElem?_take_of_lt (show 1 < 2 by omega)] at second
  exact ⟨first, second⟩

theorem StartsSelector.congr {text other : List Char} (selects : StartsSelector text)
    (same : other.take 2 = text.take 2) : StartsSelector other := by
  obtain ⟨first, second⟩ := getElem?_of_take same
  unfold StartsSelector
  rw [first, second]
  exact selects

theorem StartsPlain.congr {text other : List Char} (plain : StartsPlain text)
    (same : other.take 2 = text.take 2) : StartsPlain other := by
  obtain ⟨first, second⟩ := getElem?_of_take same
  unfold StartsPlain
  rw [first, second]
  exact plain

theorem read_div {text : List Char} (selects : StartsSelector text) (stamp : Stamp) (feed : Feed) :
    read stamp ('%' :: 'd' :: 'i' :: 'v' :: text) feed = read stamp text feed := by
  rcases text with _ | ⟨c, rest⟩
  · simp [StartsSelector] at selects
  rcases selects with dot | ⟨hash, notBrace⟩
  · obtain rfl : c = '.' := by simpa using dot
    rfl
  · obtain rfl : c = '#' := by simpa using hash
    cases rest with
    | nil => rfl
    | cons second rest =>
        have other : second ≠ '{' := by simpa using notBrace
        simp [read, other]

theorem read_escaped {text : List Char} (plain : StartsPlain text) (stamp : Stamp) (feed : Feed) :
    read stamp ('\\' :: text) feed = read stamp text feed := by
  obtain ⟨start, rest, rfl, visible⟩ := plain.visible
  obtain ⟨c, first, -, signs, interpolates⟩ := plain
  obtain rfl : start = c := by simpa using first
  simp only [List.mem_cons, List.not_mem_nil, or_false, not_or] at signs
  have words : Expression.read (start :: rest) feed =
      (.ok (some (Expression.words (start :: rest) true)), feed) := by
    simp [Expression.read, trimStart, visible, signs]
  change (.ok (.node (Expression.words (start :: rest) true)), feed) =
    read stamp (start :: rest) feed
  by_cases hash : start = '#'
  · obtain ⟨more, rfl⟩ : ∃ more, rest = '{' :: more := by
      rcases rest with _ | ⟨second, more⟩
      · cases interpolates hash
      · exact ⟨more, by simpa using interpolates hash⟩
    rw [hash, read, ← hash, words]
    rfl
  · unfold read
    split <;> simp_all [yieldsAny, Except.map]

end Line

/-! ## The step that takes the line -/

/-- A filter that keeps the first few items keeps them in front. -/
theorem take_filter {α : Type} {keep : α → Bool} {items : List α} {count : Nat}
    (kept : ∀ item ∈ items.take count, keep item = true) :
    (items.filter keep).take count = items.take count := by
  conv_lhs => rw [← List.take_append_drop count items]
  rw [List.filter_append, List.filter_eq_self.2 kept]
  by_cases long : count ≤ items.length
  · exact List.take_left' (by rw [List.length_take, Nat.min_eq_left long])
  · rw [List.drop_eq_nil_of_le (by omega), List.filter_nil, List.append_nil, List.take_take,
      Nat.min_self]

namespace Template

open FilterBlock

namespace State

variable {state ready entered : State}

theorem follow_congr {line other : List Char} (indent : (split other).1 = (split line).1)
    (solid : (split line).2 ≠ []) (otherSolid : (split other).2 ≠ []) :
    state.follow other = state.follow line := by
  unfold follow
  rw [Tracker.process_congr indent solid otherSolid]
  rcases state.indent.process line with ⟨after, _ | _⟩
  · rfl
  · rfl

theorem readText_congr {text other : List Char} (outside : state.inAuthorComment = false)
    (solid : text ≠ []) (otherSolid : other ≠ [])
    (reads : ∀ stamp feed, Line.read stamp other feed = Line.read stamp text feed) :
    state.readText other = state.readText text := by
  have gone : text.isEmpty = false := by simpa using solid
  have otherGone : other.isEmpty = false := by simpa using otherSolid
  unfold readText
  rw [reads, outside, gone, otherGone]
  rfl

/-- Taking the line leads to the same state, but for the number of the line before. -/
theorem opened_congr {line other : List Char} {after : Feed}
    (opened : state.opened = some (line, ready))
    (closed : ready.filter.isOpen = false) (indent : (split other).1 = (split line).1)
    (solid : (split other).2 ≠ []) (folded : other.count '\n' = line.count '\n')
    (taken : state.feed.take state.inFilter = some (line, after)) (feed : Feed)
    (otherTaken : feed.take state.inFilter = some (other, after)) (lineno : Nat) :
    ∃ otherReady, { state with feed, lineno }.opened = some (other, otherReady) ∧
      otherReady.filter.isOpen = false ∧ otherReady.started other = ready.started line := by
  have sameFilter : { state with feed, lineno }.inFilter = state.inFilter := rfl
  obtain ⟨rest, took, cases⟩ := opened_cases opened
  obtain rfl : rest = after := by
    rw [taken] at took
    exact (Prod.mk.inj (Option.some.inj took)).2.symm
  unfold State.opened
  rw [sameFilter, otherTaken]
  rcases cases with ⟨idle, rfl⟩ | ⟨filtering, ⟨goesOn, rfl⟩ | ⟨block, ends, rfl⟩⟩
  · rw [idle]
    refine ⟨_, rfl, closed, ?_⟩
    simp [started, folded]
  · -- a line that joins the filter leaves it open
    simp only [inFilter, Bool.and_eq_true] at filtering
    obtain ⟨draft, found⟩ := Option.isSome_iff_exists.1 filtering.2
    obtain ⟨text, grown⟩ := Collector.append_eq_none found goesOn
    simp [Collector.isOpen, grown] at closed
  · have appends := Collector.append_congr indent solid ends
    have collects : { state with feed := rest, lineno }.collect other =
        { state with
          feed := rest, lineno := rest.lineno
          filter := (state.filter.append line state.indent.current).1 }.addFilter block
            (rest.lineno - 1) := by
      unfold collect
      dsimp only
      rw [appends]
      rcases appended : state.filter.append line state.indent.current with ⟨filter, _ | found⟩
      · rw [appended] at ends
        cases ends
      · rw [appended] at ends
        cases ends
        rfl
    dsimp only
    rw [filtering, if_pos rfl, collects]
    exact ⟨_, rfl, closed, by simp only [started, folded]⟩

/-- The step that dispatches a line does the same with inert characters in front of the line's text,
if the text reads the same behind them. -/
theorem Dispatches.step_insertText {inserted first taken : List Char} {rest : List (List Char)}
    (dispatches : state.Dispatches taken ready entered)
    (pending : state.feed.pending = first :: rest) (inert : Inert inserted)
    (solid : (split first).2 ≠ []) (notPipe : (split first).2 ≠ ['|']) (unbroken : '\n' ∉ first)
    (reads : ∀ text : List Char, text.take 2 = (split first).2.take 2 → ∀ stamp feed,
      Line.read stamp (inserted ++ text) feed = Line.read stamp text feed) (lineno : Nat) :
    { state with
      feed := { state.feed with pending := insertText inserted first :: rest }, lineno }.step =
      state.step := by
  have took := opened_feed dispatches.opened
  obtain ⟨otherTook, takenSolid, start⟩ :=
    Feed.take_insertText inert solid notPipe pending took
  have unbrokenText : ∀ c ∈ (split first).2.take 2, c ≠ '\n' := fun c member feed =>
    unbroken ((List.dropWhile_suffix _).subset (List.mem_of_mem_take (feed ▸ member)))
  obtain ⟨c, tail, text⟩ := List.exists_cons_of_ne_nil takenSolid
  have notFeed : c ≠ '\n' := unbrokenText c (by rw [← start, text]; simp)
  have filtered := split_filter text notFeed
  have filteredSolid : (split (taken.filter (· != '\n'))).2 ≠ [] := by
    rw [filtered, text, List.filter_cons_of_pos (by simpa using notFeed)]
    exact List.cons_ne_nil _ _
  have filteredStart : (split (taken.filter (· != '\n'))).2.take 2 = (split first).2.take 2 := by
    rw [filtered, ← start]
    refine take_filter fun c member => ?_
    simpa using unbrokenText c (start ▸ member)
  have inserts := split_insertText inert (taken.filter (· != '\n'))
  have insertedSolid : inserted ++ (split (taken.filter (· != '\n'))).2 ≠ [] :=
    List.append_ne_nil_of_right_ne_nil _ filteredSolid
  obtain ⟨otherReady, otherOpened, otherClosed, started⟩ := opened_congr dispatches.opened
    dispatches.closed (by rw [split_insertText inert])
    (by rw [split_insertText inert]; exact List.append_ne_nil_of_right_ne_nil _ takenSolid)
    (count_insertText inert taken) took _ otherTook lineno
  rw [step_eq, otherOpened, step_eq state, dispatches.opened]
  dsimp only
  rw [otherClosed, dispatches.closed, if_neg Bool.false_ne_true, if_neg Bool.false_ne_true,
    readLogical_eq, readLogical_eq ready, started, count_insertText inert,
    filter_insertText inert text notFeed,
    follow_congr (by rw [inserts]) filteredSolid (by rw [inserts]; exact insertedSolid),
    dispatches.follows]
  dsimp only
  rw [inserts, readText_congr dispatches.outside filteredSolid insertedSolid
    (reads _ filteredStart)]

end State

/-! ## Whole templates -/

/-- Readings that come to states which take the same step end alike. -/
theorem parse_eq_of_step {source other : List Char} {filename : Option String}
    {state whole : State} (reached : Reached source filename state)
    (otherReached : Reached other filename whole) (more : state.feed.hasNext = true)
    (otherMore : whole.feed.hasNext = true) (same : whole.step = state.step) :
    parse other filename = parse source filename := by
  have runs : whole.run = state.run := by
    cases steps : state.step with
    | ok next => rw [State.run_step (same.trans steps) otherMore, State.run_step steps more]
    | error error =>
        rw [State.run_of_error otherMore (same.trans steps), State.run_of_error more steps]
  rw [parse, parse, otherReached.run_eq, reached.run_eq, runs]

/-- A template reads the same with inert characters in front of the text of a line that it dispatches,
if that text reads the same behind them. -/
theorem Dispatches.parse_eq {source other inserted physical line : List Char}
    {before after : List (List Char)} {filename : Option String}
    (dispatches : Dispatches source filename (before.length + 1) line)
    (found : lines source = before ++ physical :: after)
    (inert : Inert inserted)
    (visible : ∃ c tail, (split (trimEnd physical)).2 = c :: tail ∧ isSpace c = false)
    (notPipe : (split (trimEnd physical)).2 ≠ ['|'])
    (reads : ∀ text : List Char, text.take 2 = (split (trimEnd physical)).2.take 2 →
      ∀ stamp feed, Line.read stamp (inserted ++ text) feed = Line.read stamp text feed)
    (rewritten : lines other = before ++ insertText inserted physical :: after) :
    parse other filename = parse source filename := by
  obtain ⟨state, taken, ready, entered, reached, number, -, dispatched⟩ := dispatches
  obtain ⟨c, tail, text, visible⟩ := visible
  have solid : (split (trimEnd physical)).2 ≠ [] := by
    rw [text]
    exact List.cons_ne_nil _ _
  have number : state.feed.lineno = before.length := by omega
  have trimmed : trimEnd (insertText inserted physical) = insertText inserted (trimEnd physical) :=
    trimEnd_insertText text visible
  have pending := reached.pending_eq found number
  rw [List.map_cons] at pending
  obtain ⟨lineno, otherReached⟩ := reached.counterpart found rewritten number
    (by simp [trimmed, isPiped_insertText inert solid notPipe]) (by simp)
  rw [List.map_cons, trimmed] at otherReached
  refine parse_eq_of_step reached otherReached (by simp [Feed.hasNext, pending]) rfl ?_
  refine dispatched.step_insertText pending inert solid notPipe (fun broken => ?_) reads lineno
  exact (reached.placed.position.chars_of_mem (pending ▸ List.mem_cons_self) _ broken).2 rfl

/-- The text of a dispatched line that starts with a class or an id may have `%div` in front, and
plain text a backslash: the template is accepted with the same tree, or refused for the same reason. -/
theorem parse_insertText {source physical line : List Char} {before after : List (List Char)}
    {filename : Option String} (dispatched : Dispatches source filename (before.length + 1) line)
    (found : lines source = before ++ physical :: after) :
    (Line.StartsSelector (split (trimEnd physical)).2 → ∀ other,
        lines other = before ++ insertText ['%', 'd', 'i', 'v'] physical :: after →
          parse other filename = parse source filename) ∧
      (Line.StartsPlain (split (trimEnd physical)).2 → (split (trimEnd physical)).2 ≠ ['|'] →
        ∀ other, lines other = before ++ insertText ['\\'] physical :: after →
          parse other filename = parse source filename) := by
  refine ⟨fun selects other rewritten => ?_, fun plain notPipe other rewritten => ?_⟩
  · have inert : Inert ['%', 'd', 'i', 'v'] :=
      ⟨by decide, by decide, ⟨_, _, rfl, by decide⟩, ⟨['%', 'd', 'i'], 'v', rfl, by decide⟩⟩
    exact dispatched.parse_eq found inert selects.visible selects.notPipe
      (fun text same => Line.read_div (selects.congr same)) rewritten
  · have inert : Inert ['\\'] :=
      ⟨by decide, by decide, ⟨_, _, rfl, by decide⟩, ⟨[], '\\', rfl, by decide⟩⟩
    exact dispatched.parse_eq found inert plain.visible notPipe
      (fun text same => Line.read_escaped (plain.congr same)) rewritten

/-- Line 3 of this template ends a filter, which is why its pipe is text, and line 4 goes on in
line 5. -/
theorem parse_insertText_behind_filter :
    (Dispatches ":plain\n  x\n.a |\n  #{b} |\n  c |\nd".toList none 3 ".a |".toList ∧
        parse ":plain\n  x\n%div.a |\n  #{b} |\n  c |\nd".toList =
          parse ":plain\n  x\n.a |\n  #{b} |\n  c |\nd".toList) ∧
      Dispatches ":plain\n  x\n.a |\n  #{b} |\n  c |\nd".toList none 4 "  #{b} c ".toList ∧
        parse ":plain\n  x\n.a |\n  \\#{b} |\n  c |\nd".toList =
          parse ":plain\n  x\n.a |\n  #{b} |\n  c |\nd".toList := by
  have third : Dispatches ":plain\n  x\n.a |\n  #{b} |\n  c |\nd".toList none 3
      ".a |".toList :=
    ⟨_, _, _, _, .step (.step .start rfl rfl) rfl rfl, rfl, rfl, ⟨rfl, rfl, rfl, rfl⟩⟩
  have fourth : Dispatches ":plain\n  x\n.a |\n  #{b} |\n  c |\nd".toList none 4
      "  #{b} c ".toList :=
    ⟨_, _, _, _, .step (.step (.step .start rfl rfl) rfl rfl) rfl rfl, rfl, rfl,
      ⟨rfl, rfl, rfl, rfl⟩⟩
  have thirdFound : lines ":plain\n  x\n.a |\n  #{b} |\n  c |\nd".toList =
      [":plain".toList, "  x".toList] ++ ".a |".toList ::
        ["  #{b} |".toList, "  c |".toList, "d".toList] := rfl
  have fourthFound : lines ":plain\n  x\n.a |\n  #{b} |\n  c |\nd".toList =
      [":plain".toList, "  x".toList, ".a |".toList] ++ "  #{b} |".toList ::
        ["  c |".toList, "d".toList] := rfl
  refine ⟨⟨third, ?_⟩, fourth, ?_⟩
  · exact (parse_insertText third thirdFound).1 (.inl rfl) _ rfl
  · exact (parse_insertText fourth fourthFound).2 ⟨'#', rfl, rfl, by decide, fun _ => rfl⟩
      (by decide) _ rfl

end Template

end HamlTree
