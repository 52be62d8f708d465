import HamlTree.Proofs.BracketLaws
import HamlTree.Proofs.HandedLines
import HamlTree.Proofs.Lookahead
import HamlTree.Proofs.Run

/-!
# OpenGroups -- attribute groups over several lines

A group that is open at the end of its line goes on over the lines that follow, and each time a line
is taken the whole text is scanned again. `Element.extended text lines` is the text that has been
scanned once `lines` are taken. A group takes the fewest lines with which its bracket closes
(`ClosedBy`), so its closer stands on the last of them; if no number of lines closes it, all are taken
and it is refused (`readGroup_of_error`).

Scanning again is not needed. `scanOn` scans each line once, at the depth that the text before it left
behind, and reads the same group: up to the end of each line but the last the text stays open, and
`Bracket.scan_append` goes on from there.
-/

set_option autoImplicit false

namespace HamlTree

open Text HamlTree.Bracket

namespace Element

variable {pair : Bracket.Pair} {text group tail rest : List Char} {lines : List (List Char)}
  {feed after : Feed}

/-- The opener and the closer of a group differ. -/
theorem distinct_of_known (known : pair ∈ [braces, parens]) : pair.opener ≠ pair.closer := by
  simp only [List.mem_cons, List.not_mem_nil, or_false] at known
  rcases known with rfl | rfl
  · decide
  · decide

theorem newline_ne_closer (known : pair ∈ [braces, parens]) : '\n' ≠ pair.closer := by
  simp only [List.mem_cons, List.not_mem_nil, or_false] at known
  rcases known with rfl | rfl
  · decide
  · decide

/-! ## The text of a group -/

/-- A text with lines behind it, each after a line feed. -/
def extended (text : List Char) (lines : List (List Char)) : List Char :=
  text ++ lines.flatMap ('\n' :: ·)

@[simp] theorem extended_nil (text : List Char) : extended text [] = text := by
  simp [extended]

@[simp] theorem extended_cons (text line : List Char) (more : List (List Char)) :
    extended text (line :: more) = extended (text ++ '\n' :: line) more := by
  simp [extended]

theorem extended_concat (text last : List Char) (earlier : List (List Char)) :
    extended text (earlier ++ [last]) = extended text earlier ++ '\n' :: last := by
  simp [extended]

/-- The bracket that the text stands in closes somewhere in it. -/
def IsClosed (pair : Bracket.Pair) (text : List Char) : Prop :=
  ∃ inside rest, Closes pair 1 text inside rest

theorem isClosed_iff (known : pair ∈ [braces, parens]) :
    (scan pair 1 text).isBalanced = true ↔ IsClosed pair text :=
  isBalanced_scan_iff (distinct_of_known known) Nat.one_pos

/-- The group's bracket closes behind `group` once `lines` are taken, and with fewer lines it stays
open. -/
structure ClosedBy (pair : Bracket.Pair) (text : List Char) (feed : Feed) (lines : List (List Char))
    (group tail : List Char) (after : Feed) : Prop where
  handed : feed.Hands lines after
  closes : Closes pair 1 (extended text lines) group tail
  fewest : ∀ fewer, fewer <+: lines → fewer ≠ lines → ¬ IsClosed pair (extended text fewer)

/-- The closer stands on the last line taken. -/
theorem ClosedBy.on_last (known : pair ∈ [braces, parens])
    (closed : ClosedBy pair text feed lines group tail after) {earlier : List (List Char)}
    {last : List Char} (split : lines = earlier ++ [last]) :
    ∃ part, group = extended text earlier ++ '\n' :: part ∧ last = part ++ pair.closer :: tail := by
  subst split
  have stays : StaysOpen pair 1 (extended text earlier) := by
    apply (staysOpen_iff (distinct_of_known known) Nat.one_pos).1
    rw [← Bool.not_eq_true, isClosed_iff known]
    exact closed.fewest earlier (List.prefix_append ..) (by simp)
  have closes := closed.closes
  rw [extended_concat] at closes
  obtain ⟨part, same, behind⟩ := closes.of_stays (distinct_of_known known) stays
  cases part with
  | nil => exact absurd (List.cons.inj behind).1 (newline_ne_closer known)
  | cons c part =>
      obtain ⟨rfl, line⟩ := List.cons.inj behind
      exact ⟨part, same, line⟩

/-! ## The fewest lines -/

theorem closedBy_of_readGroup (known : pair ∈ [braces, parens])
    (reads : readGroup pair text feed = (.ok (group, rest), after)) :
    ∃ lines tail, ClosedBy pair text feed lines group tail after ∧ rest = trimStart tail := by
  induction left : feed.pending.length using Nat.strongRecOn generalizing feed text with
  | _ count ih =>
      rw [readGroup_eq] at reads
      by_cases balanced : (scan pair 1 text).isBalanced = true
      · rw [if_pos balanced] at reads
        cases reads
        obtain ⟨inside, tail, closes⟩ := (isClosed_iff known).1 balanced
        rw [closes.scan_eq (distinct_of_known known)]
        refine ⟨[], tail, ⟨.done _, by simpa using closes, ?_⟩, rfl⟩
        intro fewer initial other
        exact absurd (List.prefix_nil.1 initial) other
      · rw [if_neg balanced] at reads
        cases taken : feed.next with
        | none => rw [taken] at reads; cases reads
        | some result =>
            obtain ⟨line, middle⟩ := result
            rw [taken] at reads
            obtain ⟨lines, tail, closed, same⟩ := ih _ (left ▸ Feed.next_fewer taken) reads rfl
            refine ⟨line :: lines, tail, ⟨.line taken closed.handed, ?_, ?_⟩, same⟩
            · rw [extended_cons]
              exact closed.closes
            · intro fewer initial other
              cases fewer with
              | nil =>
                  rw [extended_nil, ← isClosed_iff known]
                  exact balanced
              | cons first fewer =>
                  obtain ⟨rfl, shorter⟩ := List.cons_prefix_cons.1 initial
                  rw [extended_cons]
                  exact closed.fewest fewer shorter fun equal => other (by rw [equal])

theorem ClosedBy.readGroup_eq (known : pair ∈ [braces, parens])
    (closed : ClosedBy pair text feed lines group tail after) :
    readGroup pair text feed = (.ok (group, trimStart tail), after) := by
  obtain ⟨handed, closes, fewest⟩ := closed
  induction handed generalizing text with
  | done =>
      rw [extended_nil] at closes
      rw [Element.readGroup_eq, closes.scan_eq (distinct_of_known known)]
      rfl
  | @line feed middle after line more taken _ ih =>
      have unclosed : ¬ (scan pair 1 text).isBalanced = true := by
        rw [isClosed_iff known]
        simpa using fewest [] (List.nil_prefix ..) (by simp)
      rw [Element.readGroup_eq, if_neg unclosed, taken]
      rw [extended_cons] at closes
      refine ih closes ?_
      intro fewer initial other
      have onward := fewest (line :: fewer) (by simpa using initial) (by simpa using other)
      rwa [extended_cons] at onward

/-- A group is read exactly if some lines close it, and then with the fewest. -/
theorem readGroup_eq_ok_iff (known : pair ∈ [braces, parens]) :
    readGroup pair text feed = (.ok (group, rest), after) ↔
      ∃ lines tail, ClosedBy pair text feed lines group tail after ∧ rest = trimStart tail := by
  constructor
  · intro reads
    exact closedBy_of_readGroup known reads
  · rintro ⟨lines, tail, closed, rfl⟩
    exact closed.readGroup_eq known

theorem isOk_readGroup_of_isClosed (known : pair ∈ [braces, parens])
    (handed : feed.Hands lines after) (closes : IsClosed pair (extended text lines)) :
    (readGroup pair text feed).1.isOk = true := by
  induction handed generalizing text with
  | done =>
      rw [extended_nil, ← isClosed_iff known] at closes
      rw [readGroup_eq, if_pos closes]
      rfl
  | line taken _ ih =>
      rw [readGroup_eq]
      split
      · rfl
      · rw [taken]
        exact ih (by simpa using closes)

/-- A group that is refused has taken all lines. -/
theorem readGroup_of_error {fault : Fault}
    (refused : readGroup pair text feed = (.error fault, after)) :
    fault = openGroup pair ∧ after.pending = [] ∧ ∃ lines, feed.Hands lines after := by
  induction left : feed.pending.length using Nat.strongRecOn generalizing feed text with
  | _ count ih =>
      rw [readGroup_eq] at refused
      split at refused
      · cases refused
      · cases taken : feed.next with
        | none =>
            rw [taken] at refused
            cases refused
            exact ⟨rfl, Feed.next_eq_none.1 taken, [], .done _⟩
        | some result =>
            obtain ⟨line, middle⟩ := result
            rw [taken] at refused
            obtain ⟨same, gone, lines, handed⟩ := ih _ (left ▸ Feed.next_fewer taken) refused rfl
            exact ⟨same, gone, line :: lines, .line taken handed⟩

/-! ## One scan from left to right -/

/-- Scan a text inside `depth` brackets and go on with the next line at the depth it leaves behind,
for at most `fuel` lines. -/
def scanOnAux (pair : Bracket.Pair) :
    Nat → Nat → List Char → Feed → Reading (List Char × List Char)
  | fuel, depth, text, feed =>
    let result := scan pair depth text
    if result.isBalanced then (.ok (result.inside, trimStart result.rest), feed)
    else
      match fuel, feed.next with
      | fuel + 1, some (line, after) =>
        Reading.map (fun taken => (text ++ taken.1, taken.2))
          (scanOnAux pair fuel result.depth ('\n' :: line) after)
      | _, _ => (.error (openGroup pair), feed)

/-- Read a group whose opener was just taken in one scan over its text and the lines that follow. -/
def scanOn (pair : Bracket.Pair) (text : List Char) (feed : Feed) :
    Reading (List Char × List Char) :=
  scanOnAux pair feed.pending.length 1 text feed

-- The text scanned so far stays open: that is why another line was taken.
theorem readGroupAux_eq_scanOnAux (distinct : pair.opener ≠ pair.closer) (fuel : Nat)
    {front : List Char} (stays : StaysOpen pair 1 front) (text : List Char) (feed : Feed) :
    readGroupAux pair fuel (front ++ text) feed =
      Reading.map (fun taken => (front ++ taken.1, taken.2))
        (scanOnAux pair fuel (depthBehind pair 1 front) text feed) := by
  induction fuel generalizing front text feed with
  | zero =>
      unfold readGroupAux scanOnAux
      simp only [isBalanced_scan_append distinct stays]
      split
      · rw [scan_append distinct stays]
        rfl
      · rfl
  | succ fuel ih =>
      unfold readGroupAux scanOnAux
      simp only [isBalanced_scan_append distinct stays]
      split
      · rw [scan_append distinct stays]
        rfl
      · rename_i unbalanced
        have longer : StaysOpen pair 1 (front ++ text) := by
          apply (staysOpen_iff distinct Nat.one_pos).1
          rw [isBalanced_scan_append distinct stays]
          simpa using unbalanced
        have depth : (scan pair (depthBehind pair 1 front) text).depth =
            depthBehind pair 1 (front ++ text) := by
          have same := scan_of_stays distinct longer
          rw [scan_append distinct stays] at same
          exact congrArg Scan.depth same
        cases feed.next with
        | none => rfl
        | some result =>
            dsimp only
            rw [ih longer, depth]
            generalize scanOnAux pair fuel _ _ _ = reading
            rcases reading with ⟨_ | taken, last⟩
            · rfl
            · simp [Reading.map, Except.map]

theorem readGroup_eq_scanOn (known : pair ∈ [braces, parens]) (text : List Char) (feed : Feed) :
    readGroup pair text feed = scanOn pair text feed := by
  have whole := readGroupAux_eq_scanOnAux (distinct_of_known known) feed.pending.length
    (staysOpen_nil Nat.one_pos) text feed
  have start : depthBehind pair 1 [] = 1 := by simp [depthBehind]
  rw [List.nil_append, start] at whole
  rw [readGroup, whole, scanOn]
  generalize scanOnAux pair _ _ _ _ = reading
  rcases reading with ⟨_ | taken, last⟩
  · rfl
  · rfl

/-! ## Groups on an element's line -/

theorem eq_of_opener {other : Bracket.Pair} (known : pair ∈ [braces, parens])
    (otherKnown : other ∈ [braces, parens]) (same : other.opener = pair.opener) : other = pair := by
  simp only [List.mem_cons, List.not_mem_nil, or_false] at known otherKnown
  rcases known with rfl | rfl <;> rcases otherKnown with rfl | rfl <;> simp_all [braces, parens]

/-- Where no opener of an available pair stands, no group is read. -/
theorem readGroupsAux_stops {available : List Bracket.Pair}
    (plain : ∀ pair ∈ available, text.head? ≠ some pair.opener) (count : Nat) (feed : Feed) :
    readGroupsAux count available text feed = (.ok ([], text), feed) := by
  cases count with
  | zero => rfl
  | succ count =>
      have absent : available.find? (fun pair => text.head? == some pair.opener) = none := by
        apply List.find?_eq_none.2
        intro pair member opens
        exact plain pair member (eq_of_beq opens)
      rw [readGroupsAux_succ, absent]

/-- Where the opener of an available pair stands, its group is read and then the others. -/
theorem readGroupsAux_opens {available : List Bracket.Pair} (fits : available ⊆ [braces, parens])
    (member : pair ∈ available) (count : Nat) (text : List Char) (feed : Feed) :
    readGroupsAux (count + 1) available (pair.opener :: text) feed =
      Reading.andThen (readGroup pair text feed) fun taken after =>
        Reading.map (fun others => (taken.1 :: others.1, others.2))
          (readGroupsAux count (available.erase pair) taken.2 after) := by
  have found : available.find? (fun other => (pair.opener :: text).head? == some other.opener) =
      some pair := by
    cases search : available.find? (fun other => (pair.opener :: text).head? == some other.opener) with
    | none =>
        have absent := List.find?_eq_none.1 search pair member
        simp at absent
    | some other =>
        have opens : some pair.opener = some other.opener := by
          simpa using List.find?_some search
        rw [eq_of_opener (fits member) (fits (List.mem_of_find?_eq_some search))
          (Option.some.inj opens).symm]
  rw [readGroupsAux_succ, found]
  rfl

/-- An element's line comes to a group of this pair: the first group, or the second behind one of the
other pair. `text` stands behind its opener and `feed` holds the lines then left. -/
inductive Opens (source : List Char) (start : Feed) (pair : Bracket.Pair) :
    List Char → Feed → Prop where
  | first {name selectors text : List Char} {marks : List Char × List Char}
      (head : readHead source = .ok (name, selectors, pair.opener :: text))
      (marked : readSelectors selectors = .ok marks) : Opens source start pair text start
  | second {other : Bracket.Pair} {name selectors inner group text : List Char}
      {marks : List Char × List Char} {middle : Feed} (otherKnown : other ∈ [braces, parens])
      (differ : other ≠ pair)
      (head : readHead source = .ok (name, selectors, other.opener :: inner))
      (marked : readSelectors selectors = .ok marks)
      (behind : readGroup other inner start = (.ok (group, pair.opener :: text), middle)) :
      Opens source start pair text middle

theorem read_of_attributes {stamp : Stamp} {source name selectors : List Char}
    {marks : List Char × List Char} {start : Feed} {fault : Fault}
    (head : readHead source = .ok (name, selectors, rest))
    (marked : readSelectors selectors = .ok marks)
    (refused : readGroupsAux 2 [braces, parens] rest start = (.error fault, after)) :
    read stamp source start = (.error fault, after) := by
  rw [read_eq, head]
  dsimp only
  rw [marked, readAttributes_eq, refused]
  rfl

/-- An element with a group that is refused is refused for it. -/
theorem Opens.read_eq {stamp : Stamp} {source : List Char} {start : Feed} {fault : Fault}
    (known : pair ∈ [braces, parens]) (opens : Opens source start pair text feed)
    (refused : readGroup pair text feed = (.error fault, after)) :
    read stamp source start = (.error fault, after) := by
  cases opens with
  | first head marked =>
      refine read_of_attributes head marked ?_
      rw [readGroupsAux_opens (List.Subset.refl _) known, refused]
      rfl
  | second otherKnown differ head marked behind =>
      refine read_of_attributes head marked ?_
      have left : pair ∈ [braces, parens].erase _ :=
        (List.mem_erase_of_ne (Ne.symm differ)).2 known
      rw [readGroupsAux_opens (List.Subset.refl _) otherKnown, behind]
      simp only [Reading.andThen]
      rw [readGroupsAux_opens (List.erase_subset ..) left, refused]
      rfl

end Element

namespace Template.State

/-- A line that is refused is refused at its own number, whatever its reader took. -/
theorem readLogical_of_refused {state entered : State} {line : List Char} {fault : Fault}
    {after : Feed} (follows : (state.started line).follow (line.filter (· != '\n')) = .ok entered)
    (visible : entered.inAuthorComment = false)
    (refused : Line.read (entered.stampAt entered.lineno)
      (Indentation.split (line.filter (· != '\n'))).2 entered.feed = (.error fault, after)) :
    state.readLogical line = .error ⟨fault, state.feed.lineno - line.count '\n', none⟩ := by
  have solid : (Indentation.split (line.filter (· != '\n'))).2.isEmpty = false := by
    apply Decidable.byContradiction
    intro empty
    have gone : (Indentation.split (line.filter (· != '\n'))).2 = [] := by simpa using empty
    rw [gone] at refused
    cases refused
  rw [readLogical_eq, follows]
  dsimp only
  rw [readText, solid, visible, refused]
  rfl

end Template.State

/-! ## The least number of lines -/

namespace Element

/-- A group takes the fewest logical lines with which its bracket closes. What stands before the
closer on the last of them, with all that was taken before, is the group, and what is left of that
line follows without the white space in front. If no number of lines closes the bracket, all are taken
and the element is refused at its own line. Scanning the whole text again for each line comes to the
same as one scan that carries the depth over. -/
theorem readGroup_takes_fewest (pair : Bracket.Pair) (known : pair ∈ [braces, parens])
    (text : List Char) (feed : Feed) :
    (∀ group rest after, readGroup pair text feed = (.ok (group, rest), after) ↔
      ∃ lines tail, ClosedBy pair text feed lines group tail after ∧ rest = trimStart tail) ∧
    (∀ lines group tail after, ClosedBy pair text feed lines group tail after →
      lines = [] ∧ text = group ++ pair.closer :: tail ∨
        ∃ earlier last part, lines = earlier ++ [last] ∧ last = part ++ pair.closer :: tail ∧
          group = extended text earlier ++ '\n' :: part) ∧
    ((readGroup pair text feed).1.isOk = true ↔
      ∃ lines after, feed.Hands lines after ∧ IsClosed pair (extended text lines)) ∧
    ((∀ lines after, feed.Hands lines after → ¬ IsClosed pair (extended text lines)) →
      ∃ lines after, feed.Hands lines after ∧ after.pending = [] ∧
        readGroup pair text feed = (.error (openGroup pair), after) ∧
        ∀ source start, Opens source start pair text feed →
          (∀ stamp, read stamp source start = (.error (openGroup pair), after)) ∧
          ∀ (state entered : Template.State) line, entered.feed = start →
            (state.started line).follow (line.filter (· != '\n')) = .ok entered →
            entered.inAuthorComment = false →
            (∀ stamp, Line.read stamp (Indentation.split (line.filter (· != '\n'))).2 start =
              Line.yields (read stamp source start)) →
            state.readLogical line =
              .error ⟨openGroup pair, state.feed.lineno - line.count '\n', none⟩) ∧
    readGroup pair text feed = scanOn pair text feed := by
  refine ⟨fun group rest after => readGroup_eq_ok_iff known, ?_, ?_, ?_, readGroup_eq_scanOn known ..⟩
  · intro lines group tail after closed
    rcases List.eq_nil_or_concat lines with rfl | ⟨earlier, last, split⟩
    · left
      refine ⟨rfl, ?_⟩
      simpa using closed.closes.whole
    · right
      rw [List.concat_eq_append] at split
      obtain ⟨part, whole, line⟩ := closed.on_last known split
      exact ⟨earlier, last, part, split, line, whole⟩
  · constructor
    · intro isOk
      rcases reads : readGroup pair text feed with ⟨fault | ⟨group, rest⟩, after⟩
      · rw [reads] at isOk
        cases isOk
      · obtain ⟨lines, tail, closed, -⟩ := closedBy_of_readGroup known reads
        exact ⟨lines, after, closed.handed, group, tail, closed.closes⟩
    · rintro ⟨lines, after, handed, closes⟩
      exact isOk_readGroup_of_isClosed known handed closes
  · intro unclosed
    rcases reads : readGroup pair text feed with ⟨fault | ⟨group, rest⟩, after⟩
    · obtain ⟨rfl, gone, lines, handed⟩ := readGroup_of_error reads
      refine ⟨lines, after, handed, gone, rfl, ?_⟩
      intro source start opens
      refine ⟨fun stamp => opens.read_eq known reads, ?_⟩
      intro state entered line same follows visible element
      subst same
      have refused : Line.read (entered.stampAt entered.lineno)
          (Indentation.split (line.filter (· != '\n'))).2 entered.feed =
            (.error (openGroup pair), after) := by
        rw [element, opens.read_eq known reads]
        rfl
      exact Template.State.readLogical_of_refused follows visible refused
    · obtain ⟨lines, tail, closed, -⟩ := closedBy_of_readGroup known reads
      exact absurd ⟨group, tail, closed.closes⟩ (unclosed lines after closed.handed)

/-- The second logical line closes the brace; the first is made of two lines. -/
theorem readGroup_takes_fewest_folded :
    braces ∈ [braces, parens] ∧
    readGroup braces "a: \x7bb: 1,".toList
        ⟨none, ["  c: 2 |".toList, "  \x7d, |".toList, "  d: 3\x7d x".toList, "%p".toList], 1⟩ =
      (.ok ("a: \x7bb: 1,\n  c: 2 \n\x7d, \n  d: 3".toList, "x".toList), ⟨none, ["%p".toList], 4⟩) ∧
    ∃ lines tail, ClosedBy braces "a: \x7bb: 1,".toList
        ⟨none, ["  c: 2 |".toList, "  \x7d, |".toList, "  d: 3\x7d x".toList, "%p".toList], 1⟩
        lines "a: \x7bb: 1,\n  c: 2 \n\x7d, \n  d: 3".toList tail ⟨none, ["%p".toList], 4⟩ ∧
      "x".toList = trimStart tail := by
  have known : braces ∈ [braces, parens] := by decide
  have reads : readGroup braces "a: \x7bb: 1,".toList
      ⟨none, ["  c: 2 |".toList, "  \x7d, |".toList, "  d: 3\x7d x".toList, "%p".toList], 1⟩ =
        (.ok ("a: \x7bb: 1,\n  c: 2 \n\x7d, \n  d: 3".toList, "x".toList),
          ⟨none, ["%p".toList], 4⟩) := by
    rfl
  exact ⟨known, reads, ((readGroup_takes_fewest braces known _ _).1 _ _ _).1 reads⟩

end Element

end HamlTree
