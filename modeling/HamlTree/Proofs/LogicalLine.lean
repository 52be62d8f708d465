import HamlTree.Proofs.ArenaLaws
import HamlTree.Proofs.FeedLaws
import HamlTree.Proofs.TrackerLaws

/-!
# LogicalLine -- the physical lines behind a line that was taken

`Feed.At source feed` says that `feed` has come to its line number in the lines of `source`. A line
taken from such a feed starts on the physical line that follows, and `Feed.Taken` collects what is
known of the two: the line feeds in a logical line count the physical lines folded into it, its
indentation is that of the physical line, its characters come from the source, and it is the whole
physical line unless it ends in a blank. Folding cuts a pipe after a blank, so what was folded
always ends in one.
-/

set_option autoImplicit false

namespace HamlTree

open Text Indentation

/-! ## Physical lines -/

/-- The physical line with this one-based number. -/
def physicalLine? (source : List Char) (lineno : Nat) : Option (List Char) :=
  (lines source)[lineno - 1]?

/-- Blanks, tabs and line feeds are the only white space. -/
def Plain (source : List Char) : Prop :=
  ∀ c ∈ source, isSpace c = true → c = ' ' ∨ c = '\t' ∨ c = '\n'

instance (source : List Char) : Decidable (Plain source) :=
  List.decidableBAll (fun c => isSpace c = true → c = ' ' ∨ c = '\t' ∨ c = '\n') source

/-- How many blanks a line starts with. -/
def leadingBlanks (line : List Char) : Nat :=
  (line.takeWhile (· == ' ')).length

theorem mem_consLine {c : Char} {rest : List (List Char)} {line : List Char}
    (member : line ∈ consLine c rest) :
    line ∈ rest ∨ ∃ tail, line = c :: tail ∧ (tail = [] ∨ tail ∈ rest) := by
  cases rest with
  | nil => exact .inr ⟨[], by simpa [consLine] using member, .inl rfl⟩
  | cons first others =>
      simp only [consLine, List.mem_cons] at member
      rcases member with rfl | later
      · exact .inr ⟨first, rfl, .inr List.mem_cons_self⟩
      · exact .inl (List.mem_cons_of_mem _ later)

/-- The characters of a physical line are characters of the source, and none is a line feed. -/
theorem mem_source_of_mem_lines {source line : List Char} (member : line ∈ lines source) :
    ∀ c ∈ line, c ∈ source ∧ c ≠ '\n' := by
  fun_induction lines source generalizing line with
  | case1 => cases member
  | case2 rest ih =>
      rcases List.mem_cons.1 member with rfl | later
      · simp
      · intro c inLine
        have := ih later c inLine
        exact ⟨List.mem_cons_of_mem _ this.1, this.2⟩
  | case3 rest ih =>
      rcases List.mem_cons.1 member with rfl | later
      · simp
      · intro c inLine
        have := ih later c inLine
        exact ⟨List.mem_cons_of_mem _ (List.mem_cons_of_mem _ this.1), this.2⟩
  | case4 first rest notFeed notReturn ih =>
      intro c inLine
      rcases mem_consLine member with later | ⟨tail, rfl, short⟩
      · have := ih later c inLine
        exact ⟨List.mem_cons_of_mem _ this.1, this.2⟩
      · rcases List.mem_cons.1 inLine with rfl | inTail
        · exact ⟨List.mem_cons_self, fun feed => notFeed feed⟩
        · rcases short with rfl | later
          · cases inTail
          · have := ih later c inTail
            exact ⟨List.mem_cons_of_mem _ this.1, this.2⟩

/-! ## Lines put together -/

namespace Text

/-- The lines with a line feed behind each. -/
def unlines (parts : List (List Char)) : List Char :=
  parts.flatMap (· ++ ['\n'])

theorem unlines_cons (line : List Char) (parts : List (List Char)) :
    unlines (line :: parts) = line ++ '\n' :: unlines parts := by
  simp [unlines]

/-- What stands before a line feed is a physical line, but for a carriage return at its end. -/
theorem lines_append_line {line : List Char} (unbroken : '\n' ∉ line) (rest : List Char) :
    ∃ cut, lines (line ++ '\n' :: rest) = cut :: lines rest ∧
      (line = cut ∨ line = cut ++ ['\r']) := by
  induction line with
  | nil => exact ⟨[], by rw [List.nil_append, lines], .inl rfl⟩
  | cons c line ih =>
      have notFeed : c ≠ '\n' := fun same => unbroken (same ▸ List.mem_cons_self)
      by_cases ends : c = '\r' ∧ line = []
      · obtain ⟨rfl, rfl⟩ := ends
        exact ⟨[], by rw [List.singleton_append, lines], .inr rfl⟩
      · obtain ⟨cut, tail, shape⟩ := ih fun later => unbroken (List.mem_cons_of_mem _ later)
        refine ⟨c :: cut, ?_, ?_⟩
        · rw [List.cons_append, lines, tail, consLine]
          · exact notFeed
          · rintro next rfl same
            cases line with
            | nil => exact ends ⟨rfl, rfl⟩
            | cons second line =>
                cases same
                exact unbroken (by simp)
        · rcases shape with rfl | rfl
          · exact .inl rfl
          · exact .inr rfl

/-- Trimmed at their ends, lines are found as they were put together. -/
theorem map_trimEnd_lines_unlines {parts : List (List Char)}
    (unbroken : ∀ line ∈ parts, '\n' ∉ line) :
    (lines (unlines parts)).map trimEnd = parts.map trimEnd := by
  induction parts with
  | nil => rfl
  | cons line parts ih =>
      obtain ⟨cut, split, shape⟩ :=
        lines_append_line (unbroken line List.mem_cons_self) (unlines parts)
      have same : trimEnd cut = trimEnd line := by
        rcases shape with rfl | rfl
        · rfl
        · exact (List.rdropWhile_concat_pos _ _ _ (by decide)).symm
      rw [unlines_cons, split, List.map_cons, List.map_cons, same,
        ih fun other member => unbroken other (List.mem_cons_of_mem _ member)]

theorem length_lines_unlines {parts : List (List Char)} (unbroken : ∀ line ∈ parts, '\n' ∉ line) :
    (lines (unlines parts)).length = parts.length := by
  simpa using congrArg List.length (map_trimEnd_lines_unlines unbroken)

theorem cutAt_append_line {line : List Char} (unbroken : '\n' ∉ line) (rest : List Char) :
    cutAt '\n' (line ++ '\n' :: rest) = line :: cutAt '\n' rest := by
  induction line with
  | nil => rfl
  | cons c line ih =>
      have notFeed : c ≠ '\n' := fun same => unbroken (same ▸ List.mem_cons_self)
      rw [List.cons_append, cutAt, if_neg notFeed,
        ih fun later => unbroken (List.mem_cons_of_mem _ later), consLine]

theorem cutAt_unlines {parts : List (List Char)} (unbroken : ∀ line ∈ parts, '\n' ∉ line) :
    cutAt '\n' (unlines parts) = parts ++ [[]] := by
  induction parts with
  | nil => rfl
  | cons line parts ih =>
      rw [unlines_cons, cutAt_append_line (unbroken line List.mem_cons_self),
        ih fun other member => unbroken other (List.mem_cons_of_mem _ member)]
      rfl

end Text

/-! ## Trimming -/

theorem trimEnd_initial (text : List Char) : trimEnd text <+: text :=
  List.rdropWhile_prefix ..

/-- What does not end in white space has something else in it. -/
theorem trimStart_trimEnd_ne_nil {line : List Char} (visible : trimEnd line ≠ []) :
    trimStart (trimEnd line) ≠ [] := by
  intro void
  have last := List.rdropWhile_last_not isSpace line visible
  exact last (List.dropWhile_eq_nil_iff.1 void _ (List.getLast_mem visible))

/-- Trimming the end of a line leaves the blanks that it starts with, if there is more to it. -/
theorem leadingBlanks_of_trimEnd {physical rest : List Char} {width : Nat} {c : Char}
    (trimmed : trimEnd physical = List.replicate width ' ' ++ c :: rest) (solid : c ≠ ' ') :
    leadingBlanks physical = width := by
  obtain ⟨cut, joined⟩ := trimEnd_initial physical
  rw [← joined, trimmed, leadingBlanks, List.append_assoc,
    List.takeWhile_append_of_pos (by simp [List.mem_replicate]), List.cons_append,
    List.takeWhile_cons_of_neg (by simpa using solid)]
  simp

/-- Without tabs, the level of a line with text is the number of blanks it starts with. -/
theorem leadingBlanks_eq_levelOf {physical : List Char} (solid : (split (trimEnd physical)).2 ≠ [])
    (tabless : '\t' ∉ (split (trimEnd physical)).1) :
    leadingBlanks physical = levelOf (trimEnd physical) := by
  -- the trimmed line is indentation, then a character that is none
  obtain ⟨c, rest, tail⟩ := List.exists_cons_of_ne_nil solid
  have trimmed : trimEnd physical =
      List.replicate (levelOf (trimEnd physical)) ' ' ++ c :: rest := by
    rw [← split_eq_replicate tabless, ← tail, split_append]
  refine leadingBlanks_of_trimEnd trimmed ?_
  rintro rfl
  cases isIndent_of_split tail

theorem isSpace_of_isIndent {c : Char} (indents : isIndent c = true) : isSpace c = true := by
  simp only [isIndent, Bool.or_eq_true, beq_iff_eq] at indents
  rcases indents with rfl | rfl <;> decide

/-- What is trimmed at its front does not start with indentation. -/
theorem takeWhile_isIndent_trimStart_append (text rest : List Char)
    (unindented : rest.takeWhile isIndent = []) :
    (trimStart text ++ rest).takeWhile isIndent = [] := by
  cases trimmed : trimStart text with
  | nil => exact unindented
  | cons c tail =>
      have solid : isSpace c = false := by
        have := List.head?_dropWhile_not isSpace text
        simpa [show text.dropWhile isSpace = c :: tail from trimmed] using this
      have unindented : isIndent c = false := by
        rw [Bool.eq_false_iff]
        intro indents
        rw [isSpace_of_isIndent indents] at solid
        cases solid
      simp [unindented]

/-! ## Pipes -/

theorem isPiped_eq {line : List Char} (piped : isPiped line = true) :
    ∃ before, line = before ++ [' ', '|'] := by
  unfold isPiped at piped
  split at piped
  · rename_i before reversed
    refine ⟨before.reverse, ?_⟩
    have := congrArg List.reverse reversed
    simpa using this
  · cases piped

theorem cutPipe_append (before : List Char) : cutPipe (before ++ ['|']) = before := by
  simp [cutPipe]

/-- A piped line without its pipe ends in a blank. -/
theorem cutPipe_of_isPiped {line : List Char} (piped : isPiped line = true) :
    line = cutPipe line ++ ['|'] ∧ (cutPipe line).getLast? = some ' ' := by
  obtain ⟨before, rfl⟩ := isPiped_eq piped
  have cut : cutPipe (before ++ [' ', '|']) = before ++ [' '] := by
    simpa using cutPipe_append (before ++ [' '])
  simp [cut]

theorem joinLines_cons (first : List Char) (rest : List (List Char)) :
    joinLines (first :: rest) = first ++ rest.flatMap ('\n' :: ·) := by
  induction rest generalizing first with
  | nil => simp [joinLines, joinWith]
  | cons second others ih =>
      have unfolded : joinLines (first :: second :: others) =
          first ++ ['\n'] ++ joinLines (second :: others) := rfl
      rw [unfolded, ih]
      simp

/-! ## Folds -/

/-- The pieces that a fold puts behind its first line. -/
def foldedPieces (following : List (List Char)) : List Char :=
  following.flatMap fun line => trimStart (cutPipe line)

theorem foldPiped_eq (first : List Char) (following : List (List Char)) :
    foldPiped first following =
      cutPipe first ++ following.flatMap fun line => '\n' :: trimStart (cutPipe line) := by
  rw [foldPiped, joinLines_cons, List.flatMap_map]

section Fold

variable {first : List Char} {following : List (List Char)}

theorem mem_of_mem_cutPipe {line : List Char} (piped : isPiped line = true) {c : Char}
    (member : c ∈ cutPipe line) : c ∈ line := by
  rw [(cutPipe_of_isPiped piped).1]
  exact List.mem_append_left _ member

theorem mem_of_mem_piece {line : List Char} (piped : isPiped line = true) {c : Char}
    (member : c ∈ trimStart (cutPipe line)) : c ∈ line :=
  mem_of_mem_cutPipe piped ((List.dropWhile_sublist _).subset member)

theorem filter_foldPiped (piped : isPiped first = true) (run : ∀ line ∈ following, isPiped line = true)
    (unbroken : ∀ line ∈ first :: following, '\n' ∉ line) :
    (foldPiped first following).filter (· != '\n') = cutPipe first ++ foldedPieces following := by
  have keep : ∀ text : List Char, '\n' ∉ text → text.filter (· != '\n') = text := by
    intro text absent
    rw [List.filter_eq_self]
    intro c member
    simp only [bne_iff_ne]
    exact fun same => absent (same ▸ member)
  rw [foldPiped_eq, List.filter_append, List.filter_flatMap, foldedPieces,
    keep _ fun member => unbroken first List.mem_cons_self (mem_of_mem_cutPipe piped member)]
  congr 1
  apply List.flatMap_congr
  intro line member
  rw [List.filter_cons_of_neg (by simp), keep]
  exact fun found => unbroken line (List.mem_cons_of_mem _ member)
    (mem_of_mem_piece (run line member) found)

theorem count_foldPiped (piped : isPiped first = true) (run : ∀ line ∈ following, isPiped line = true)
    (unbroken : ∀ line ∈ first :: following, '\n' ∉ line) :
    (foldPiped first following).count '\n' = following.length := by
  have pieces : ∀ rest : List (List Char), (∀ line ∈ rest, line ∈ following) →
      (rest.flatMap fun line => '\n' :: trimStart (cutPipe line)).count '\n' = rest.length := by
    intro rest
    induction rest with
    | nil => intro _; rfl
    | cons line others ih =>
        intro members
        have member := members line List.mem_cons_self
        rw [List.flatMap_cons, List.count_append, ih fun other h => members other (.tail _ h),
          List.count_cons_self, List.count_eq_zero_of_not_mem]
        · simp [Nat.add_comm]
        · exact fun found => unbroken line (List.mem_cons_of_mem _ member)
            (mem_of_mem_piece (run line member) found)
  rw [foldPiped_eq, List.count_append, pieces following fun _ h => h,
    List.count_eq_zero_of_not_mem, Nat.zero_add]
  exact fun member => unbroken first List.mem_cons_self (mem_of_mem_cutPipe piped member)

/-- A piece of a fold ends in a blank, if anything is left of it. -/
theorem getLast?_piece {line : List Char} (piped : isPiped line = true) :
    trimStart (cutPipe line) = [] ∨ (trimStart (cutPipe line)).getLast? = some ' ' := by
  have ends := (cutPipe_of_isPiped piped).2
  by_cases gone : trimStart (cutPipe line) = []
  · exact .inl gone
  · obtain ⟨before, split⟩ := List.dropWhile_suffix isSpace (l := cutPipe line)
    rw [← split, List.getLast?_append] at ends
    obtain ⟨last, found⟩ := Option.isSome_iff_exists.1 (List.getLast?_isSome.2 gone)
    have found' : ((cutPipe line).dropWhile isSpace).getLast? = some last := found
    rw [found', Option.some_or] at ends
    exact .inr (found.trans ends)

theorem getLast?_fold (piped : isPiped first = true) (run : ∀ line ∈ following, isPiped line = true) :
    (cutPipe first ++ foldedPieces following).getLast? = some ' ' := by
  have pieces : ∀ rest : List (List Char), (∀ line ∈ rest, line ∈ following) →
      foldedPieces rest = [] ∨ (foldedPieces rest).getLast? = some ' ' := by
    intro rest
    induction rest with
    | nil => intro _; exact .inl rfl
    | cons line others ih =>
        intro members
        have unfolded : foldedPieces (line :: others) =
            trimStart (cutPipe line) ++ foldedPieces others := rfl
        rw [unfolded, List.getLast?_append]
        rcases ih fun other h => members other (.tail _ h) with none | last
        · rcases getLast?_piece (run line (members line List.mem_cons_self)) with gone | last
          · exact .inl (by rw [none, gone]; rfl)
          · exact .inr (by rw [none, last]; rfl)
        · exact .inr (by rw [last]; rfl)
  rw [List.getLast?_append, (cutPipe_of_isPiped piped).2]
  rcases pieces following fun _ h => h with none | last
  · rw [none]; rfl
  · rw [last]; rfl

/-- Folding leaves the indentation of the first line as it is. -/
theorem takeWhile_fold (piped : isPiped first = true) :
    (cutPipe first ++ foldedPieces following).takeWhile isIndent = first.takeWhile isIndent := by
  have pieces : (foldedPieces following).takeWhile isIndent = [] := by
    induction following with
    | nil => rfl
    | cons line others ih => exact takeWhile_isIndent_trimStart_append _ _ ih
  have pipe : ['|'].takeWhile isIndent = [] := by decide
  conv => rhs; rw [(cutPipe_of_isPiped piped).1]
  rw [List.takeWhile_append, List.takeWhile_append, pieces, pipe]

end Fold

/-! ## Where a feed has come to -/

namespace Feed

/-- The lines of the run that comes next are lines to come. -/
theorem mem_of_mem_run {feed : Feed} {first line : List Char} {rest : List (List Char)}
    (pending : feed.pending = first :: rest) (member : line ∈ first :: rest.takeWhile isPiped) :
    line ∈ feed.pending := by
  rw [pending]
  exact (List.cons_prefix_cons.2 ⟨rfl, List.takeWhile_prefix _⟩).subset member

/-- The feed has handed out the lines of the source up to its line number. -/
def At (source : List Char) (feed : Feed) : Prop :=
  feed.pending = ((lines source).map trimEnd).drop feed.lineno

theorem at_ofSource (filename : Option String) (source : List Char) :
    (ofSource filename source).At source := rfl

theorem At.ahead {source : List Char} {feed after : Feed} (position : feed.At source)
    (moved : feed.Ahead after) : after.At source := by
  obtain ⟨count, -, rfl⟩ := moved
  simp only [At, skip] at position ⊢
  rw [position, List.drop_drop]

/-- What is known of a line taken from a feed, next to the physical line it starts on. -/
structure Taken (source : List Char) (feed : Feed) (line : List Char) (after : Feed)
    (physical : List Char) : Prop where
  physical_eq : physicalLine? source (feed.lineno + 1) = some physical
  moved : after = feed.skip (1 + line.count '\n')
  fits : 1 + line.count '\n' ≤ feed.pending.length
  chars : ∀ c ∈ line.filter (· != '\n'), c ∈ source
  indent : (split (line.filter (· != '\n'))).1 = (split (trimEnd physical)).1
  solid : (split (line.filter (· != '\n'))).2 ≠ [] → (split (trimEnd physical)).2 ≠ []
  whole : (line.filter (· != '\n')).getLast? ≠ some ' ' →
    line.filter (· != '\n') = trimEnd physical ∧ line.count '\n' = 0

namespace At

variable {source : List Char} {feed after : Feed} {line : List Char}

theorem getElem?_lineno (position : feed.At source) (count : Nat) :
    ((lines source).map trimEnd)[feed.lineno + count]? = feed.pending[count]? := by
  rw [position, List.getElem?_drop]

theorem listed {first : List Char} {rest : List (List Char)} (position : feed.At source)
    (pending : feed.pending = first :: rest) :
    ((lines source).map trimEnd)[feed.lineno]? = some first := by
  have first := position.getElem?_lineno 0
  rwa [pending, Nat.add_zero] at first

/-- The next pending line is the next physical line, trimmed. -/
theorem physical {first : List Char} {rest : List (List Char)} (position : feed.At source)
    (pending : feed.pending = first :: rest) :
    ∃ physical, physicalLine? source (feed.lineno + 1) = some physical ∧
      trimEnd physical = first := by
  have head := position.listed pending
  rw [List.getElem?_map, Option.map_eq_some_iff] at head
  exact head

theorem chars_of_mem (position : feed.At source) {pending : List Char}
    (member : pending ∈ feed.pending) : ∀ c ∈ pending, c ∈ source ∧ c ≠ '\n' := by
  rw [position] at member
  obtain ⟨physical, listed, rfl⟩ := List.mem_map.1 (List.mem_of_mem_drop member)
  intro c inLine
  exact mem_source_of_mem_lines listed c ((trimEnd_initial physical).subset inLine)

theorem unbroken_of_mem (position : feed.At source) {pending : List Char}
    (member : pending ∈ feed.pending) : '\n' ∉ pending :=
  fun found => (position.chars_of_mem member _ found).2 rfl

/-- Nothing is folded into a physical line. -/
theorem unfolded {rest : List (List Char)} (position : feed.At source)
    (pending : feed.pending = line :: rest) :
    line.filter (· != '\n') = line ∧ line.count '\n' = 0 := by
  have chars := position.chars_of_mem (pending ▸ List.mem_cons_self : line ∈ feed.pending)
  refine ⟨?_, List.count_eq_zero_of_not_mem fun h => (chars _ h).2 rfl⟩
  rw [List.filter_eq_self]
  intro c member
  simpa using (chars c member).2

/-- A physical line taken as it stands. -/
theorem taken_one {rest : List (List Char)} (position : feed.At source)
    (pending : feed.pending = line :: rest) :
    ∃ physical, Taken source feed line (feed.skip 1) physical := by
  obtain ⟨physical, found, trimmed⟩ := position.physical pending
  obtain ⟨same, count⟩ := position.unfolded pending
  have chars := position.chars_of_mem (pending ▸ List.mem_cons_self : line ∈ feed.pending)
  refine ⟨physical, found, by rw [count], by simp [count, pending], ?_, ?_, ?_, ?_⟩
  all_goals rw [same]
  · exact fun c member => (chars c member).1
  · rw [trimmed]
  · rw [trimmed]; exact id
  · exact fun _ => ⟨trimmed.symm, count⟩

/-- A logical line taken. -/
theorem taken_next (position : feed.At source) (taken : feed.next = some (line, after)) :
    ∃ physical, Taken source feed line after physical := by
  obtain ⟨first, rest, pending, ⟨-, rfl, rfl⟩ | ⟨piped, rfl, rfl⟩⟩ := next_eq taken
  · exact position.taken_one pending
  · obtain ⟨physical, found, trimmed⟩ := position.physical pending
    have run : ∀ line ∈ rest.takeWhile isPiped, isPiped line = true :=
      fun _ member => List.mem_takeWhile_imp member
    have members : ∀ line ∈ first :: rest.takeWhile isPiped, line ∈ feed.pending :=
      fun line member => mem_of_mem_run pending member
    have unbroken : ∀ line ∈ first :: rest.takeWhile isPiped, '\n' ∉ line :=
      fun line member => position.unbroken_of_mem (members line member)
    have text := filter_foldPiped piped run unbroken
    have count := count_foldPiped piped run unbroken
    have fits := (List.takeWhile_prefix isPiped (l := rest)).length_le
    refine ⟨physical, found, by rw [count], ?_, ?_, ?_, ?_, ?_⟩
    · rw [count, pending, List.length_cons]
      omega
    all_goals rw [text]
    · intro c member
      rcases List.mem_append.1 member with inFirst | inPieces
      · exact (position.chars_of_mem (members first List.mem_cons_self) c
          (mem_of_mem_cutPipe piped inFirst)).1
      · obtain ⟨piece, listed, inPiece⟩ := List.mem_flatMap.1 inPieces
        exact (position.chars_of_mem (members piece (List.mem_cons_of_mem _ listed)) c
          (mem_of_mem_piece (run piece listed) inPiece)).1
    · rw [trimmed]
      exact takeWhile_fold piped
    · -- the pipe itself is text
      intro _ gone
      rw [trimmed] at gone
      have blank : ∀ c ∈ first, isIndent c = true := by simpa [split] using gone
      have : isIndent '|' = true := blank _ (by rw [(cutPipe_of_isPiped piped).1]; simp)
      exact absurd this (by decide)
    · exact fun ends => absurd (getLast?_fold piped run) ends

theorem taken_take {raw : Bool} (position : feed.At source)
    (taken : feed.take raw = some (line, after)) :
    ∃ physical, Taken source feed line after physical := by
  unfold take at taken
  split at taken
  · obtain ⟨⟨rest, pending⟩, rfl⟩ := nextRaw_eq taken
    exact position.taken_one pending
  · exact position.taken_next taken

end At

namespace Taken

variable {source line physical : List Char} {feed after : Feed}

theorem ahead (taken : Taken source feed line after physical) : feed.Ahead after :=
  ⟨_, taken.fits, taken.moved⟩

theorem lineno_eq (taken : Taken source feed line after physical) :
    after.lineno = feed.lineno + 1 + line.count '\n' := by
  rw [taken.moved]
  exact (Nat.add_assoc ..).symm

/-- The indentation of a line with text counts the blanks of its physical line. -/
theorem leadingBlanks_eq (taken : Taken source feed line after physical)
    (text : (split (line.filter (· != '\n'))).2 ≠ [])
    (tabless : '\t' ∉ (split (line.filter (· != '\n'))).1) :
    leadingBlanks physical = levelOf (line.filter (· != '\n')) := by
  have same : levelOf (line.filter (· != '\n')) = levelOf (trimEnd physical) :=
    congrArg List.length taken.indent
  rw [same]
  exact leadingBlanks_eq_levelOf (taken.solid text) (taken.indent ▸ tabless)

/-- Where white space is plain, what follows the indentation is not white space alone. -/
theorem trimStart_ne_nil (taken : Taken source feed line after physical) (plain : Plain source)
    (text : (split (line.filter (· != '\n'))).2 ≠ []) :
    trimStart (split (line.filter (· != '\n'))).2 ≠ [] := by
  intro void
  obtain ⟨c, rest, tail⟩ := List.exists_cons_of_ne_nil text
  have stops := isIndent_of_split tail
  have member : c ∈ line.filter (· != '\n') :=
    (List.dropWhile_sublist isIndent).subset (tail ▸ List.mem_cons_self : c ∈ (split _).2)
  have space : isSpace c = true :=
    List.dropWhile_eq_nil_iff.1 void c (tail ▸ List.mem_cons_self)
  rcases plain c (taken.chars c member) space with rfl | rfl | rfl
  · cases stops
  · cases stops
  · simp at member

end Taken

end Feed

end HamlTree
