import HamlTree.Proofs.CheckedReaders
import HamlTree.Proofs.CommaContinuation
import HamlTree.Proofs.OpenGroups

/-!
# ElementGrammar -- the texts that are elements

`Element.Parts` is an element taken to pieces: its name, the classes and ids, the groups with the
white space behind each, the signs that remove white space, and the rest of the line.
`Parts.written` puts the pieces together again, and `Parts.WellFormed` says where each of them ends.
A text on one line is an element exactly if it is written by such parts (`read_accepts_grammar`).
There is only one way to take it to pieces, every character belongs to one of them, and what is read
off the element is what the pieces say.

Each piece has two lemmas. One goes from pieces to the reader: what is written by a piece with this
text behind it is read as that piece (`readHead_written`, `readSelectors_written`,
`Grouped.readGroupsAux_eq`, `IsMarks.readNukes_eq`). The other finds the piece where the reader
succeeds.
-/

set_option autoImplicit false

namespace HamlTree

open Text HamlTree.Bracket

/-! ## Runs -/

namespace Text

variable {test : Char → Bool} {run rest : List Char}

/-- A run of such characters, which ends before `rest` because no other follows. -/
structure IsRun (test : Char → Bool) (run rest : List Char) : Prop where
  all : ∀ c ∈ run, test c = true
  ends : ∀ c, rest.head? = some c → test c = false

theorem isRun_takeWhile (test : Char → Bool) (text : List Char) :
    IsRun test (text.takeWhile test) (text.dropWhile test) := by
  constructor
  · intro c member
    exact List.mem_takeWhile_imp member
  · intro c starts
    have stops := List.head?_dropWhile_not test text
    rw [starts] at stops
    simpa using stops

theorem IsRun.takeWhile_eq (isRun : IsRun test run rest) : (run ++ rest).takeWhile test = run := by
  rw [List.takeWhile_append_of_pos isRun.all]
  cases rest with
  | nil => simp
  | cons c rest => simp [isRun.ends c rfl]

theorem IsRun.dropWhile_eq (isRun : IsRun test run rest) : (run ++ rest).dropWhile test = rest := by
  rw [List.dropWhile_append_of_pos isRun.all]
  cases rest with
  | nil => rfl
  | cons c rest => simp [isRun.ends c rfl]

theorem IsRun.unique {otherRun otherRest : List Char} (isRun : IsRun test run rest)
    (other : IsRun test otherRun otherRest) (same : run ++ rest = otherRun ++ otherRest) :
    run = otherRun ∧ rest = otherRest := by
  constructor
  · rw [← isRun.takeWhile_eq, same, other.takeWhile_eq]
  · rw [← isRun.dropWhile_eq, same, other.dropWhile_eq]

end Text

namespace Element

variable {name run text rest content marks : List Char} {feed after : Feed}

/-! ## Name, classes and ids -/

theorem readHead_written (named : name ≠ []) (isName : IsRun isNameChar name (run ++ rest))
    (isSelection : IsRun isSelectorChar run rest) (oneLine : '\n' ∉ rest) :
    readHead ('%' :: (name ++ (run ++ rest))) = .ok (name, run, rest) := by
  have runs : (run ++ rest).takeWhile (fun c => isNameChar c || isSelectorSign c) = run :=
    isSelection.takeWhile_eq
  have behind : (run ++ rest).dropWhile (fun c => isNameChar c || isSelectorSign c) = rest :=
    isSelection.dropWhile_eq
  simp only [readHead, isName.takeWhile_eq, isName.dropWhile_eq, runs, behind]
  simp [named, oneLine]

theorem of_readHead (head : readHead text = .ok (name, run, rest)) :
    text = '%' :: (name ++ (run ++ rest)) ∧ name ≠ [] ∧ IsRun isNameChar name (run ++ rest) ∧
      IsRun isSelectorChar run rest := by
  unfold readHead at head
  split at head
  · rename_i line
    dsimp only at head
    split at head
    · cases head
    · rename_i accepted
      cases head
      have whole := List.takeWhile_append_dropWhile (p := isSelectorChar)
        (l := line.dropWhile isNameChar)
      have named : line.takeWhile isNameChar ≠ [] := by
        intro nameless
        rw [nameless] at accepted
        exact accepted rfl
      refine ⟨?_, named, ?_, isRun_takeWhile isSelectorChar _⟩
      · change '%' :: line = '%' :: (line.takeWhile isNameChar ++
          ((line.dropWhile isNameChar).takeWhile isSelectorChar ++
            (line.dropWhile isNameChar).dropWhile isSelectorChar))
        rw [whole, List.takeWhile_append_dropWhile]
      · exact whole.symm ▸ isRun_takeWhile isNameChar line
  · cases head

/-- A class or an id: its sign and a name. -/
structure IsSelector (selector : Char × List Char) : Prop where
  sign : isSelectorSign selector.1 = true
  named : selector.2 ≠ []
  name : ∀ c ∈ selector.2, isNameChar c = true

/-- The text of classes and ids. -/
def writtenSelectors (selectors : List (Char × List Char)) : List Char :=
  selectors.flatMap fun selector => selector.1 :: selector.2

/-- The names behind this sign, in order. -/
def namesOf (sign : Char) (selectors : List (Char × List Char)) : List (List Char) :=
  (selectors.filter (·.1 == sign)).map Prod.snd

theorem cutSelectors_name_append (isName : ∀ c ∈ name, isNameChar c = true) (text : List Char) :
    cutSelectors (name ++ text) = (name ++ (cutSelectors text).1, (cutSelectors text).2) := by
  induction name with
  | nil => rfl
  | cons c name ih =>
      have plain := isSelectorSign_of_isNameChar (isName c List.mem_cons_self)
      have onward := ih fun other member => isName other (List.mem_cons_of_mem _ member)
      rw [List.cons_append, cutSelectors, onward, plain]
      rfl

theorem cutSelectors_written {selectors : List (Char × List Char)}
    (each : ∀ selector ∈ selectors, IsSelector selector) :
    cutSelectors (writtenSelectors selectors) = ([], selectors) := by
  induction selectors with
  | nil => rfl
  | cons selector selectors ih =>
      obtain ⟨sign, named, name⟩ := each selector List.mem_cons_self
      have onward := ih fun other member => each other (List.mem_cons_of_mem _ member)
      rw [writtenSelectors, List.flatMap_cons, List.cons_append, cutSelectors,
        cutSelectors_name_append name, ← writtenSelectors, onward]
      simp [sign]

theorem readSelectors_written {selectors : List (Char × List Char)}
    (each : ∀ selector ∈ selectors, IsSelector selector) :
    readSelectors (writtenSelectors selectors) =
      .ok (joinWith [' '] (namesOf '.' selectors), (namesOf '#' selectors).getLast?.getD []) := by
  have nameless : selectors.any (·.2.isEmpty) = false := by
    rw [List.any_eq_false]
    intro selector member
    simpa using (each selector member).named
  rw [readSelectors, cutSelectors_written each]
  simp [nameless, namesOf]

/-- A cut loses nothing, and puts names behind signs. -/
theorem cutSelectors_whole (suits : ∀ c ∈ run, isSelectorChar c = true) :
    run = (cutSelectors run).1 ++ writtenSelectors (cutSelectors run).2 ∧
      (∀ c ∈ (cutSelectors run).1, isNameChar c = true) ∧
      ∀ selector ∈ (cutSelectors run).2,
        isSelectorSign selector.1 = true ∧ ∀ c ∈ selector.2, isNameChar c = true := by
  induction run with
  | nil => simp [cutSelectors, writtenSelectors]
  | cons c run ih =>
      obtain ⟨whole, before, each⟩ := ih fun other member => suits other (List.mem_cons_of_mem _ member)
      rcases cut : cutSelectors run with ⟨front, selectors⟩
      rw [cut] at whole before each
      rw [cutSelectors, cut]
      dsimp only at whole before each ⊢
      cases sign : isSelectorSign c with
      | true =>
          refine ⟨?_, by simp, ?_⟩
          · simp [writtenSelectors, whole]
          · intro selector member
            rcases List.mem_cons.1 member with rfl | member
            · exact ⟨sign, before⟩
            · exact each selector member
      | false =>
          have letter : isNameChar c = true := by
            have suit := suits c List.mem_cons_self
            simpa [isSelectorChar, sign] using suit
          refine ⟨?_, ?_, each⟩
          · rw [if_neg (by simp), List.cons_append, ← whole]
          · intro other member
            rcases List.mem_cons.1 member with rfl | member
            · exact letter
            · exact before other member

theorem of_readSelectors {found : List Char × List Char}
    (suits : ∀ c ∈ run, isSelectorChar c = true) (reads : readSelectors run = .ok found) :
    ∃ selectors, run = writtenSelectors selectors ∧ ∀ selector ∈ selectors, IsSelector selector := by
  obtain ⟨whole, -, each⟩ := cutSelectors_whole suits
  unfold readSelectors at reads
  rcases cut : cutSelectors run with ⟨front, selectors⟩
  rw [cut] at whole each reads
  dsimp only at reads
  split at reads
  · cases reads
  · rename_i complete
    simp only [Bool.or_eq_true, Bool.not_eq_true', not_or, Bool.not_eq_false, List.isEmpty_iff,
      List.any_eq_true, not_exists, not_and] at complete
    refine ⟨selectors, by rw [whole, complete.1]; rfl, ?_⟩
    intro selector member
    exact ⟨(each selector member).1, complete.2 selector member, (each selector member).2⟩

/-- What a name, classes and ids, and attributes say about an element. -/
def headTag (name : List Char) (selectors : List (Char × List Char)) (attributes : List Char) :
    Tag where
  name := String.ofList name
  classes := String.ofList (joinWith [' '] (namesOf '.' selectors))
  id := String.ofList ((namesOf '#' selectors).getLast?.getD [])
  attributes := String.ofList attributes

/-- Behind its name, classes and ids, an element goes on with its groups. -/
theorem read_written {selectors : List (Char × List Char)} (named : name ≠ [])
    (isName : IsRun isNameChar name (writtenSelectors selectors ++ rest))
    (each : ∀ selector ∈ selectors, IsSelector selector)
    (isSelection : IsRun isSelectorChar (writtenSelectors selectors) rest) (oneLine : '\n' ∉ rest)
    (stamp : Stamp) (feed : Feed) :
    read stamp ('%' :: (name ++ (writtenSelectors selectors ++ rest))) feed =
      Reading.andThen (readAttributes rest feed) fun taken after =>
        readTail stamp (headTag name selectors taken.1) taken.2 after := by
  rw [read_eq, readHead_written named isName isSelection oneLine]
  dsimp only
  rw [readSelectors_written each]
  rfl

/-! ## Groups -/

/-- A group as it is written, with the white space behind it. -/
structure Group where
  pair : Bracket.Pair
  inside : List Char
  blanks : List Char

namespace Group

/-- The text of a group. -/
def written (group : Group) : List Char :=
  group.pair.opener :: (group.inside ++ group.pair.closer :: group.blanks)

end Group

/-- The text of several groups. -/
def writtenGroups (groups : List Group) : List Char :=
  groups.flatMap Group.written

/-- Groups of the available pairs, each pair used once, with all white space behind each of them; they
end before `rest`, where no other could start. -/
inductive Grouped : List Bracket.Pair → List Group → List Char → Prop where
  | done {available : List Bracket.Pair} {rest : List Char}
      (plain : ∀ pair ∈ available, rest.head? ≠ some pair.opener) : Grouped available [] rest
  | group {available : List Bracket.Pair} {group : Group} {more : List Group} {rest : List Char}
      (member : group.pair ∈ available) (balanced : Balanced group.pair group.inside)
      (blanks : IsRun isSpace group.blanks (writtenGroups more ++ rest))
      (others : Grouped (available.erase group.pair) more rest) :
      Grouped available (group :: more) rest

theorem writtenGroups_cons_append (group : Group) (more : List Group) (rest : List Char) :
    writtenGroups (group :: more) ++ rest = group.pair.opener ::
      (group.inside ++ group.pair.closer :: (group.blanks ++ (writtenGroups more ++ rest))) := by
  simp [writtenGroups, Group.written]

/-- A group that closes in its text takes no line. -/
theorem readGroup_written {pair : Bracket.Pair} {inside : List Char}
    (known : pair ∈ [braces, parens]) (balanced : Balanced pair inside) (tail : List Char)
    (feed : Feed) :
    readGroup pair (inside ++ pair.closer :: tail) feed = (.ok (inside, trimStart tail), feed) := by
  have closes : Closes pair 1 (inside ++ pair.closer :: tail) inside tail :=
    closes_one_iff.2 ⟨rfl, balanced⟩
  rw [readGroup_eq, closes.scan_eq (distinct_of_known known)]
  rfl

namespace Grouped

variable {available : List Bracket.Pair} {groups others : List Group}

theorem length_le (grouped : Grouped available groups rest) : groups.length ≤ available.length := by
  induction grouped with
  | done => exact Nat.zero_le _
  | group member _ _ _ ih =>
      rw [List.length_erase_of_mem member] at ih
      have positive := List.length_pos_of_mem member
      rw [List.length_cons]
      omega

theorem readGroupsAux_eq (grouped : Grouped available groups rest)
    (fits : available ⊆ [braces, parens]) {count : Nat} (enough : groups.length ≤ count)
    (feed : Feed) :
    readGroupsAux count available (writtenGroups groups ++ rest) feed =
      (.ok (groups.map Group.inside, rest), feed) := by
  induction grouped generalizing count with
  | done plain => exact readGroupsAux_stops plain count feed
  | @group available group more rest member balanced blanks _ ih =>
      cases count with
      | zero => cases enough
      | succ count =>
          have onward := ih (List.Subset.trans (List.erase_subset ..) fits)
            (Nat.le_of_succ_le_succ enough)
          rw [writtenGroups_cons_append, readGroupsAux_opens fits member,
            readGroup_written (fits member) balanced, trimStart, blanks.dropWhile_eq]
          simp only [Reading.andThen]
          rw [onward]
          rfl

/-- There is one way to take groups off the front of a text. -/
theorem unique {otherRest : List Char} (grouped : Grouped available groups rest)
    (fits : available ⊆ [braces, parens]) (other : Grouped available others otherRest)
    (same : writtenGroups groups ++ rest = writtenGroups others ++ otherRest) :
    groups = others ∧ rest = otherRest := by
  induction grouped generalizing others with
  | done plain =>
      cases other with
      | done => exact ⟨rfl, same⟩
      | group member =>
          rw [writtenGroups_cons_append] at same
          exact absurd (congrArg List.head? same) (plain _ member)
  | @group available group more rest member balanced blanks _ ih =>
      cases other with
      | done plain =>
          rw [writtenGroups_cons_append] at same
          exact absurd (congrArg List.head? same.symm) (plain _ member)
      | @group _ second _ _ secondMember secondBalanced secondBlanks secondOthers =>
          obtain ⟨pair, inside, blank⟩ := group
          obtain ⟨secondPair, secondInside, secondBlank⟩ := second
          rw [writtenGroups_cons_append, writtenGroups_cons_append] at same
          obtain ⟨opens, behind⟩ := List.cons.inj same
          obtain rfl : pair = secondPair := eq_of_opener (fits secondMember) (fits member) opens
          have last : Closes pair 1 _ secondInside _ := closes_one_iff.2 ⟨behind, secondBalanced⟩
          obtain ⟨rfl, tail⟩ := Closes.unique (distinct_of_known (fits member))
            (closes_one_iff.2 ⟨rfl, balanced⟩) last
          obtain ⟨rfl, left⟩ := blanks.unique secondBlanks tail
          obtain ⟨rfl, rfl⟩ := ih (List.Subset.trans (List.erase_subset ..) fits) secondOthers left
          exact ⟨rfl, rfl⟩

theorem of_readGroupsAux {count : Nat} {insides : List (List Char)} (exhausted : feed.pending = [])
    (fits : available ⊆ [braces, parens]) (enough : available.length ≤ count)
    (reads : readGroupsAux count available text feed = (.ok (insides, rest), after)) :
    ∃ groups, text = writtenGroups groups ++ rest ∧ Grouped available groups rest := by
  induction count generalizing available text insides after with
  | zero =>
      obtain rfl := List.eq_nil_of_length_eq_zero (Nat.le_zero.1 enough)
      cases reads
      exact ⟨[], rfl, .done (by simp)⟩
  | succ count ih =>
      by_cases opened : ∃ pair ∈ available, text.head? = some pair.opener
      · obtain ⟨pair, member, starts⟩ := opened
        obtain ⟨inner, rfl⟩ := List.head?_eq_some_iff.1 starts
        rw [readGroupsAux_opens fits member] at reads
        rcases first : readGroup pair inner feed with ⟨_ | ⟨inside, behind⟩, middle⟩
        · rw [first] at reads
          cases reads
        · rw [first] at reads
          obtain ⟨lines, tail, closed, rfl⟩ := (readGroup_eq_ok_iff (fits member)).1 first
          obtain ⟨rfl, rfl⟩ := closed.handed.of_exhausted exhausted
          obtain ⟨whole, balanced⟩ := closes_one_iff.1 closed.closes
          simp only [Reading.andThen] at reads
          rcases second : readGroupsAux count (available.erase pair) (trimStart tail) middle with
            ⟨_ | ⟨others, left⟩, last⟩
          · rw [second] at reads
            cases reads
          · rw [second] at reads
            cases reads
            have fewer : (available.erase pair).length ≤ count := by
              rw [List.length_erase_of_mem member]
              omega
            obtain ⟨groups, same, grouped⟩ := ih (List.Subset.trans (List.erase_subset ..) fits)
              fewer second
            refine ⟨⟨pair, inside, tail.takeWhile isSpace⟩ :: groups, ?_, ?_⟩
            · rw [writtenGroups_cons_append, ← same, trimStart, List.takeWhile_append_dropWhile,
                ← whole, extended_nil]
            · refine .group member balanced ?_ grouped
              rw [← same]
              exact isRun_takeWhile isSpace tail
      · have plain : ∀ pair ∈ available, text.head? ≠ some pair.opener := by
          intro pair member starts
          exact opened ⟨pair, member, starts⟩
        rw [readGroupsAux_stops plain] at reads
        cases reads
        exact ⟨[], rfl, .done plain⟩

end Grouped

/-! ## Signs that remove white space -/

/-- The signs that remove white space. -/
def nukeMarks : List (List Char) :=
  [['>', '<'], ['<', '>'], ['>'], ['<'], []]

/-- The longest signs that stand there. -/
structure IsMarks (marks content : List Char) : Prop where
  known : marks ∈ nukeMarks
  longest : ∀ other ∈ nukeMarks, other <+: marks ++ content → other.length ≤ marks.length

theorem IsMarks.readNukes_eq (isMarks : IsMarks marks content) :
    readNukes (marks ++ content) = (⟨marks.contains '<', marks.contains '>'⟩, content) := by
  obtain ⟨known, longest⟩ := isMarks
  simp only [nukeMarks, List.mem_cons, List.not_mem_nil, or_false] at known longest
  rcases known with rfl | rfl | rfl | rfl | rfl
  · rfl
  · rfl
  · cases content with
    | nil => rfl
    | cons c content =>
        have alone : c ≠ '<' := by
          rintro rfl
          exact absurd (longest ['>', '<'] (by simp) (by simp)) (by decide)
        simp [readNukes, alone]
  · cases content with
    | nil => rfl
    | cons c content =>
        have alone : c ≠ '>' := by
          rintro rfl
          exact absurd (longest ['<', '>'] (by simp) (by simp)) (by decide)
        simp [readNukes, alone]
  · cases content with
    | nil => rfl
    | cons c content =>
        have outer : c ≠ '>' := by
          rintro rfl
          exact absurd (longest ['>'] (by simp) (by simp)) (by decide)
        have inner : c ≠ '<' := by
          rintro rfl
          exact absurd (longest ['<'] (by simp) (by simp)) (by decide)
        simp [readNukes, outer, inner]

theorem isMarks_readNukes (text : List Char) :
    ∃ marks, text = marks ++ (readNukes text).2 ∧ IsMarks marks (readNukes text).2 := by
  have atMost : ∀ marks ∈ nukeMarks, marks.length ≤ 2 := by decide
  have forms : ∀ {marks : List Char}, marks ∈ nukeMarks →
      marks = ['>', '<'] ∨ marks = ['<', '>'] ∨ marks = ['>'] ∨ marks = ['<'] ∨ marks = [] := by
    simp [nukeMarks]
  unfold readNukes
  split
  · exact ⟨['>', '<'], rfl, by decide, fun other member _ => atMost other member⟩
  · exact ⟨['<', '>'], rfl, by decide, fun other member _ => atMost other member⟩
  · rename_i rest alone
    refine ⟨['>'], rfl, by decide, ?_⟩
    rintro other member ⟨more, same⟩
    rcases forms member with rfl | rfl | rfl | rfl | rfl
    · exact absurd (List.cons.inj same).2.symm (alone _)
    · exact absurd (List.cons.inj same).1 (by decide)
    · decide
    · decide
    · decide
  · rename_i rest _ alone
    refine ⟨['<'], rfl, by decide, ?_⟩
    rintro other member ⟨more, same⟩
    rcases forms member with rfl | rfl | rfl | rfl | rfl
    · exact absurd (List.cons.inj same).1 (by decide)
    · exact absurd (List.cons.inj same).2.symm (alone _)
    · decide
    · decide
    · decide
  · rename_i outer inner
    refine ⟨[], rfl, by decide, ?_⟩
    rintro other member ⟨more, rfl⟩
    rcases forms member with rfl | rfl | rfl | rfl | rfl
    · exact absurd rfl (outer _)
    · exact absurd rfl (inner _)
    · exact absurd rfl (outer _)
    · exact absurd rfl (inner _)
    · decide

theorem IsMarks.unique {others otherContent : List Char} (isMarks : IsMarks marks content)
    (other : IsMarks others otherContent) (same : marks ++ content = others ++ otherContent) :
    marks = others ∧ content = otherContent := by
  have upper := other.longest marks isMarks.known (same ▸ List.prefix_append ..)
  have lower := isMarks.longest others other.known (same ▸ List.prefix_append ..)
  exact List.append_inj same (Nat.le_antisymm upper lower)

/-! ## The rest of the line -/

/-- The sign of an element that closes itself, or an output expression. -/
def IsContent (feed : Feed) (content : List Char) : Prop :=
  content = ['/'] ∨ content.head? ≠ some '/' ∧ (Expression.read content feed).1.isOk = true

/-- The output expression on the element's line. -/
def inlineText (content : List Char) : List Char :=
  if content = ['/'] then [] else content

theorem readSelfClosing_of_isContent (isContent : IsContent feed content) :
    readSelfClosing content = .ok (content == ['/'], inlineText content) := by
  rcases isContent with rfl | ⟨unclosed, -⟩
  · rfl
  · have other : content ≠ ['/'] := by
      rintro rfl
      exact unclosed rfl
    unfold readSelfClosing
    split
    · exact absurd rfl other
    · exact absurd rfl unclosed
    · simp [inlineText, other]

/-- Without lines left, an expression leaves the feed as it is. -/
theorem read_exhausted (exhausted : feed.pending = []) (text : List Char) :
    (Expression.read text feed).2 = feed := by
  have outcome := Expression.read_outcome text feed
  generalize Expression.read text feed = reading at outcome
  cases outcome with
  | code keyword escapes preserves holds continued =>
      exact (continued.handed.of_exhausted exhausted).2
  | text | nothing | refused => rfl

theorem readTail_written (stamp : Stamp) (tag : Tag) (exhausted : feed.pending = [])
    (isMarks : IsMarks marks content) (isContent : IsContent feed content) :
    ∃ inline, Expression.read (inlineText content) feed = (.ok inline, feed) ∧
      readTail stamp tag (marks ++ content) feed =
        (.ok (.element
          { tag with
            selfClosing := content == ['/']
            nukesInner := marks.contains '<', nukesOuter := marks.contains '>' }
          (Inline.ofNode? (inline.map (Node.mk stamp)))), feed) := by
  have accepted : (Expression.read (inlineText content) feed).1.isOk = true := by
    unfold inlineText
    split
    · rfl
    · rename_i other
      exact (isContent.resolve_left other).2
  have still := read_exhausted exhausted (inlineText content)
  rcases reads : Expression.read (inlineText content) feed with ⟨_ | inline, after⟩
  · rw [reads] at accepted
    cases accepted
  · rw [reads] at still
    obtain rfl : after = feed := still
    refine ⟨inline, rfl, ?_⟩
    rw [readTail, isMarks.readNukes_eq]
    dsimp only
    rw [readSelfClosing_of_isContent isContent]
    dsimp only
    rw [reads]

theorem of_readTail {stamp : Stamp} {tag : Tag}
    (accepted : (readTail stamp tag text feed).1.isOk = true) :
    ∃ marks content, text = marks ++ content ∧ IsMarks marks content ∧ IsContent feed content := by
  obtain ⟨marks, whole, isMarks⟩ := isMarks_readNukes text
  refine ⟨marks, (readNukes text).2, whole, isMarks, ?_⟩
  unfold readTail at accepted
  dsimp only at accepted
  generalize (readNukes text).2 = content at accepted
  unfold readSelfClosing at accepted
  split at accepted
  · cases accepted
  · rename_i closing
    split at closing
    · exact .inl rfl
    · cases closing
    · rename_i unclosed
      cases closing
      right
      constructor
      · intro starts
        obtain ⟨more, rfl⟩ := List.head?_eq_some_iff.1 starts
        exact unclosed more rfl
      · split at accepted
        · cases accepted
        · rename_i reads
          rw [reads]
          rfl

/-! ## The whole element -/

/-- An element in pieces. -/
structure Parts where
  name : List Char
  selectors : List (Char × List Char)
  groups : List Group
  marks : List Char
  content : List Char

namespace Parts

/-- What stands behind the name, the classes and the ids. -/
def behindHead (parts : Parts) : List Char :=
  writtenGroups parts.groups ++ (parts.marks ++ parts.content)

/-- The text of an element. -/
def written (parts : Parts) : List Char :=
  '%' :: (parts.name ++ (writtenSelectors parts.selectors ++ parts.behindHead))

/-- What the pieces say about the element. -/
def tag (parts : Parts) : Tag :=
  { headTag parts.name parts.selectors (joinWith [',', ' '] (parts.groups.map Group.inside)) with
    selfClosing := parts.content == ['/']
    nukesInner := parts.marks.contains '<'
    nukesOuter := parts.marks.contains '>' }

/-- Every piece is what it should be and ends where it has to. -/
structure WellFormed (parts : Parts) (feed : Feed) : Prop where
  named : parts.name ≠ []
  name : IsRun isNameChar parts.name (writtenSelectors parts.selectors ++ parts.behindHead)
  selectors : ∀ selector ∈ parts.selectors, IsSelector selector
  selection : IsRun isSelectorChar (writtenSelectors parts.selectors) parts.behindHead
  groups : Grouped [braces, parens] parts.groups (parts.marks ++ parts.content)
  marks : IsMarks parts.marks parts.content
  content : IsContent feed parts.content

variable {parts other : Parts}

theorem WellFormed.read_eq (wellFormed : parts.WellFormed feed) (stamp : Stamp)
    (oneLine : '\n' ∉ parts.written) (exhausted : feed.pending = []) :
    ∃ inline, Expression.read (inlineText parts.content) feed = (.ok inline, feed) ∧
      read stamp parts.written feed =
        (.ok (.element parts.tag (Inline.ofNode? (inline.map (Node.mk stamp)))), feed) := by
  have behind : '\n' ∉ parts.behindHead := by
    intro member
    exact oneLine (by simp [written, member])
  have groups := wellFormed.groups.readGroupsAux_eq (List.Subset.refl _)
    wellFormed.groups.length_le feed
  obtain ⟨inline, reads, tail⟩ := readTail_written stamp
    (headTag parts.name parts.selectors (joinWith [',', ' '] (parts.groups.map Group.inside)))
    exhausted wellFormed.marks wellFormed.content
  refine ⟨inline, reads, ?_⟩
  rw [written, read_written wellFormed.named wellFormed.name wellFormed.selectors
    wellFormed.selection behind, readAttributes_eq, behindHead]
  change Reading.andThen (Reading.map _ (readGroupsAux [braces, parens].length _ _ _)) _ = _
  rw [groups]
  exact tail

/-- An element that is read is written by well-formed parts. -/
theorem exists_of_read {stamp : Stamp} (exhausted : feed.pending = [])
    (accepted : (read stamp text feed).1.isOk = true) :
    ∃ parts : Parts, parts.written = text ∧ parts.WellFormed feed := by
  rw [Element.read_eq] at accepted
  split at accepted
  · cases accepted
  rename_i name run rest head
  split at accepted
  · cases accepted
  rename_i classes id marked
  obtain ⟨rfl, named, isName, isSelection⟩ := of_readHead head
  obtain ⟨selectors, rfl, each⟩ := of_readSelectors isSelection.all marked
  have grouped := Reading.isOk_andThen accepted
  rw [readAttributes_eq, Reading.isOk_map] at grouped
  rcases reads : readGroupsAux 2 [braces, parens] rest feed with ⟨_ | ⟨insides, tail⟩, after⟩
  · rw [reads] at grouped
    cases grouped
  obtain ⟨groups, rfl, isGrouped⟩ := Grouped.of_readGroupsAux exhausted (List.Subset.refl _)
    (Nat.le_refl _) reads
  have still := isGrouped.readGroupsAux_eq (List.Subset.refl _) isGrouped.length_le feed
  obtain rfl : after = feed := congrArg Prod.snd (reads.symm.trans still)
  rw [readAttributes_eq, reads] at accepted
  obtain ⟨marks, content, rfl, isMarks, isContent⟩ := of_readTail accepted
  exact ⟨⟨name, selectors, groups, marks, content⟩, rfl,
    named, isName, each, isSelection, isGrouped, isMarks, isContent⟩

/-- A text can be taken to pieces in one way at most. -/
theorem WellFormed.unique (wellFormed : parts.WellFormed feed) (again : other.WellFormed feed)
    (same : parts.written = other.written) : parts = other := by
  obtain ⟨name, selectors, groups, marks, content⟩ := parts
  obtain ⟨otherName, otherSelectors, otherGroups, otherMarks, otherContent⟩ := other
  obtain ⟨rfl, behindName⟩ := wellFormed.name.unique again.name (List.cons.inj same).2
  obtain ⟨selection, behind⟩ := wellFormed.selection.unique again.selection behindName
  have cut := congrArg cutSelectors selection
  rw [cutSelectors_written wellFormed.selectors, cutSelectors_written again.selectors] at cut
  obtain rfl : selectors = otherSelectors := congrArg Prod.snd cut
  obtain ⟨rfl, signs⟩ := wellFormed.groups.unique (List.Subset.refl _) again.groups behind
  obtain ⟨rfl, rfl⟩ := wellFormed.marks.unique again.marks signs
  rfl

end Parts

/-- Without further lines, a text on one line is an element exactly if it is written by well-formed
parts. These are then determined, they make up the whole text, and the element is what they say: its
tag, and the expression in its content as its inline node. -/
theorem read_accepts_grammar (stamp : Stamp) (text : List Char) (feed : Feed)
    (oneLine : '\n' ∉ text) (exhausted : feed.pending = []) :
    ((read stamp text feed).1.isOk = true ↔
      ∃ parts : Parts, parts.written = text ∧ parts.WellFormed feed) ∧
    ∀ parts : Parts, parts.written = text → parts.WellFormed feed →
      (∀ other : Parts, other.written = text → other.WellFormed feed → other = parts) ∧
      ∃ inline, Expression.read (inlineText parts.content) feed = (.ok inline, feed) ∧
        read stamp text feed =
          (.ok (.element parts.tag (Inline.ofNode? (inline.map (Node.mk stamp)))), feed) := by
  constructor
  · constructor
    · intro accepted
      exact Parts.exists_of_read exhausted accepted
    · rintro ⟨parts, rfl, wellFormed⟩
      obtain ⟨inline, -, reads⟩ := wellFormed.read_eq stamp oneLine exhausted
      rw [reads]
      rfl
  · rintro parts rfl wellFormed
    constructor
    · intro other same again
      exact again.unique wellFormed same
    · exact wellFormed.read_eq stamp oneLine exhausted

/-- An element with every piece. -/
theorem read_accepts_grammar_pieces :
    '\n' ∉ "%a.x#y.z\x7bk: \x7bb: 1\x7d\x7d  (c='d')<>= f(g)".toList ∧
    (read ⟨none, 1⟩ "%a.x#y.z\x7bk: \x7bb: 1\x7d\x7d  (c='d')<>= f(g)".toList ⟨none, [], 1⟩).1 =
      .ok (.element
        ⟨"a", "x z", "y", "k: \x7bb: 1\x7d, c='d'", false, true, true⟩
        (.node ⟨none, 1⟩ (.script "f(g)" none true false) [])) ∧
    ∃ parts : Parts, parts.written = "%a.x#y.z\x7bk: \x7bb: 1\x7d\x7d  (c='d')<>= f(g)".toList ∧
      parts.WellFormed ⟨none, [], 1⟩ := by
  have oneLine : '\n' ∉ "%a.x#y.z\x7bk: \x7bb: 1\x7d\x7d  (c='d')<>= f(g)".toList := by decide +kernel
  have reads : (read ⟨none, 1⟩ "%a.x#y.z\x7bk: \x7bb: 1\x7d\x7d  (c='d')<>= f(g)".toList ⟨none, [], 1⟩).1 =
      .ok (.element
        ⟨"a", "x z", "y", "k: \x7bb: 1\x7d, c='d'", false, true, true⟩
        (.node ⟨none, 1⟩ (.script "f(g)" none true false) [])) := by
    decide +kernel
  refine ⟨oneLine, reads, (read_accepts_grammar ⟨none, 1⟩ _ ⟨none, [], 1⟩ oneLine rfl).1.1 ?_⟩
  rw [reads]
  rfl

end Element

end HamlTree
