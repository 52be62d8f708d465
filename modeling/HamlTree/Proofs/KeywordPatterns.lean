import HamlTree.Proofs.KeywordForms
import HamlTree.Proofs.PatternMatching

/-!
# KeywordPatterns -- the patterns of code that carries a block keyword

The three forms of such code can be searched for as patterns: an opening, an assignment where one may
stand, and one of some keywords up to the end of the word. `Keyword.matched` does that, first for
the keywords that go on with a block and then for those that start one.

A pattern may take less of the white space than there is, or leave an assignment out. The order of
preference settles which way counts. But what stands behind an opening or an assignment starts with a
word, and only one way leads to a word (`Takes.head?_both`), so what is left of the order is that an
assignment comes before nothing. With that `matched` is what the reader finds (`matched_eq_detect`),
and `detect_ordered` states the order of the forms for both.
-/

set_option autoImplicit false

namespace HamlTree.Keyword

open Text Pattern

/-! ## The patterns -/

/-- Any white space. -/
def blanksPattern : Pattern :=
  many (one isSpace)

/-- An optional sign and white space. -/
def openingPattern : Pattern :=
  both (optional (one (· == '-'))) blanksPattern

/-- A name. -/
def namePattern : Pattern :=
  both (one isWord) (many (one isWord))

/-- Names with commas between them. -/
def namesPattern : Pattern :=
  both namePattern (many (both (one (· == ',')) (both blanksPattern namePattern)))

/-- Names and a sign of equality between white space. -/
def assignmentPattern : Pattern :=
  both namesPattern (both blanksPattern (both (one (· == '=')) blanksPattern))

/-- One of the keywords, kept, up to the end of the word. -/
def anyOf (keywords : List Keyword) : Pattern :=
  both (keep (oneOf (keywords.map (·.word.toList)))) boundary

/-- The keywords that go on with a block, as they are tried. -/
def arms : List Keyword :=
  [elseArm, elsifArm, rescueArm, ensureArm, endMark, whenArm]

/-- The keywords that start a block, as they are tried. -/
def blocks : List Keyword :=
  [ifBlock, beginBlock, caseBlock, unlessBlock]

/-- Code that goes on with a block. -/
def armPattern : Pattern :=
  both start (both openingPattern (anyOf arms))

/-- Code that starts a block. -/
def blockPattern : Pattern :=
  both start (both openingPattern (anyOf blocks))

/-- Code that starts a block, behind an assignment if there is one. -/
def assignedBlockPattern : Pattern :=
  both start (both openingPattern (both (optional assignmentPattern) (anyOf blocks)))

/-- The keyword that was kept on the way. -/
def kept? (way : Place) : Option Keyword :=
  way.kept.bind ofWord?

/-- The keyword that the patterns find. -/
def matched (code : List Char) (assignable : Bool) : Option Keyword :=
  ((search armPattern code).or
    (search (if assignable then assignedBlockPattern else blockPattern) code)).bind kept?

/-! ## What the patterns take -/

theorem takes_blanks : Takes blanksPattern IsBlank :=
  .run isSpace

theorem takes_opening : Takes openingPattern IsOpening := by
  refine ((Takes.one (· == '-')).optional.both takes_blanks).congr fun text => ⟨?_, ?_⟩
  · rintro ⟨_, blanks, rfl, ⟨c, same, rfl⟩ | rfl, blank⟩
    · obtain rfl : c = '-' := by simpa using same
      exact .signed blank
    · exact .unsigned blank
  · rintro (blank | blank)
    · exact ⟨[], text, rfl, .inr rfl, blank⟩
    · exact ⟨['-'], _, rfl, .inl ⟨'-', rfl, rfl⟩, blank⟩

theorem takes_name : Takes namePattern IsName := by
  refine ((Takes.one isWord).both (.run isWord)).congr fun text => ⟨?_, fun named => ?_⟩
  · rintro ⟨_, rest, rfl, ⟨c, inWord, rfl⟩, restInWord⟩
    exact ⟨by simp, List.forall_mem_cons.2 ⟨inWord, restInWord⟩⟩
  · obtain ⟨c, rest, rfl, inWord, restInWord⟩ := named.exists_cons
    exact ⟨[c], rest, rfl, ⟨c, inWord, rfl⟩, restInWord⟩

/-- A comma and a name, with any white space between them. -/
def IsFurther (text : List Char) : Prop :=
  ∃ blanks name, text = ',' :: (blanks ++ name) ∧ IsBlank blanks ∧ IsName name

theorem isNames_iff {text : List Char} :
    IsNames text ↔ ∃ name, ∃ further : List (List Char), text = name ++ further.flatten ∧
      IsName name ∧ ∀ each ∈ further, IsFurther each := by
  constructor
  · intro isNames
    induction isNames with
    | one named => exact ⟨_, [], by simp, named, by simp⟩
    | @more name blanks names named blank _ ih =>
        obtain ⟨next, further, rfl, nextNamed, each⟩ := ih
        refine ⟨name, (',' :: (blanks ++ next)) :: further, by simp, named, ?_⟩
        exact List.forall_mem_cons.2 ⟨⟨blanks, next, rfl, blank, nextNamed⟩, each⟩
  · rintro ⟨name, further, rfl, named, each⟩
    induction further generalizing name with
    | nil => simpa using IsNames.one named
    | cons part further ih =>
        obtain ⟨⟨blanks, next, rfl, blank, nextNamed⟩, others⟩ := List.forall_mem_cons.1 each
        simpa using IsNames.more named blank (ih next nextNamed others)

theorem takes_further :
    Takes (both (one (· == ',')) (both blanksPattern namePattern)) IsFurther := by
  refine ((Takes.one (· == ',')).both (takes_blanks.both takes_name)).congr fun text => ⟨?_, ?_⟩
  · rintro ⟨_, _, rfl, ⟨c, same, rfl⟩, blanks, name, rfl, blank, named⟩
    obtain rfl : c = ',' := by simpa using same
    exact ⟨blanks, name, rfl, blank, named⟩
  · rintro ⟨blanks, name, rfl, blank, named⟩
    exact ⟨[','], _, rfl, ⟨',', rfl, rfl⟩, blanks, name, rfl, blank, named⟩

theorem takes_names : Takes namesPattern IsNames := by
  have written : ¬ IsFurther [] := by rintro ⟨blanks, name, same, -⟩; cases same
  refine (takes_name.both (takes_further.many written)).congr fun text => ?_
  rw [isNames_iff]
  constructor
  · rintro ⟨name, _, rfl, named, further, rfl, each⟩
    exact ⟨name, further, rfl, named, each⟩
  · rintro ⟨name, further, rfl, named, each⟩
    exact ⟨name, _, rfl, named, further, rfl, each⟩

theorem takes_assignment : Takes assignmentPattern IsAssignment := by
  refine (takes_names.both (takes_blanks.both ((Takes.one (· == '=')).both takes_blanks))).congr
    fun text => ⟨?_, ?_⟩
  · rintro ⟨names, _, rfl, isNames, before, _, rfl, blank, _, behind, rfl, ⟨c, same, rfl⟩, more⟩
    obtain rfl : c = '=' := by simpa using same
    exact ⟨names, before, behind, rfl, isNames, blank, more⟩
  · rintro ⟨names, before, behind, rfl, isNames, blank, more⟩
    exact ⟨names, _, rfl, isNames, before, _, rfl, blank, ['='], behind, rfl, ⟨'=', rfl, rfl⟩, more⟩

/-! ## Keywords as whole words -/

theorem inWord_eq_false_iff {text : List Char} :
    inWord text = false ↔ ∀ c, text.head? = some c → isWord c = false := by
  rw [inWord]
  cases text.head? <;> simp

/-- The place behind a name is inside a word or at the end of one. -/
theorem inWord_reverse_append {name before : List Char} (named : IsName name) :
    inWord (name.reverse ++ before) = true := by
  have backwards : IsName name.reverse := by simpa [IsName] using named
  obtain ⟨c, rest, spelled, last, -⟩ := backwards.exists_cons
  rw [spelled, List.cons_append, inWord, List.head?_cons, Option.any_some, last]

/-- One of the keywords has to stand at the place as a whole word, and it is kept. -/
theorem mem_ways_anyOf {keywords : List Keyword} {place next : Place} :
    next ∈ (anyOf keywords).ways place ↔ ∃ keyword ∈ keywords,
      place.behind = keyword.word.toList ++ next.behind ∧ inWord next.behind = false ∧
        next.before = keyword.word.toList.reverse ++ place.before ∧
          next.kept = some keyword.word.toList := by
  rw [anyOf, mem_ways_both]
  constructor
  · rintro ⟨way, member, bounded⟩
    obtain ⟨rfl, ends⟩ := mem_ways_boundary.1 bounded
    obtain ⟨_, spelled, behind, before, kept⟩ := (Takes.oneOf _).mem_ways_keep.1 member
    obtain ⟨keyword, listed, rfl⟩ := List.mem_map.1 spelled
    rw [before, inWord_reverse_append (isName_word keyword)] at ends
    exact ⟨keyword, listed, behind, by simpa using ends.symm, before, kept⟩
  · rintro ⟨keyword, listed, behind, ends, before, kept⟩
    refine ⟨next, (Takes.oneOf _).mem_ways_keep.2 ⟨keyword.word.toList, ?_, behind, before, kept⟩,
      mem_ways_boundary.2 ⟨rfl, ?_⟩⟩
    · exact List.mem_map_of_mem listed
    · rw [before, inWord_reverse_append (isName_word keyword), ends]
      decide

/-! ## What the patterns find -/

/-- The keyword of the preferred way. -/
def preferred (ways : List Place) : Option Keyword :=
  ways.head?.bind kept?

/-- A keyword is kept on each of these ways. -/
def Keeping (ways : List Place) : Prop :=
  ∀ way ∈ ways, ∃ keyword, kept? way = some keyword

theorem Keeping.bind_or {ways : List Place} (keeping : Keeping ways) (other : Option Place) :
    (ways.head?.or other).bind kept? = (preferred ways).or (other.bind kept?) := by
  cases ways with
  | nil => rfl
  | cons way ways =>
      obtain ⟨keyword, kept⟩ := keeping way List.mem_cons_self
      simp [preferred, kept]

theorem keeping_anyOf (keywords : List Keyword) (place : Place) :
    Keeping ((anyOf keywords).ways place) := by
  intro way member
  obtain ⟨keyword, -, -, -, -, kept⟩ := mem_ways_anyOf.1 member
  exact ⟨keyword, by rw [kept?, kept, Option.bind_some, ofWord?_eq_some_iff]⟩

theorem keeping_assigned (keywords : List Keyword) (place : Place) :
    Keeping ((both assignmentPattern (anyOf keywords)).ways place) := by
  intro way member
  obtain ⟨middle, -, member⟩ := mem_ways_both.1 member
  exact keeping_anyOf keywords middle way member

/-- The pattern goes on from the start of a word only. -/
def FromWord (pattern : Pattern) : Prop :=
  ∀ place, pattern.ways place ≠ [] → ∃ c rest, place.behind = c :: rest ∧ isWord c = true

theorem fromWord_anyOf (keywords : List Keyword) : FromWord (anyOf keywords) := by
  intro place goesOn
  obtain ⟨way, member⟩ := List.exists_mem_of_ne_nil _ goesOn
  obtain ⟨keyword, -, behind, -⟩ := mem_ways_anyOf.1 member
  obtain ⟨c, rest, spelled, inWord, -⟩ := (isName_word keyword).exists_cons
  exact ⟨c, rest ++ way.behind, by rw [behind, spelled, List.cons_append], inWord⟩

theorem fromWord_assigned (keywords : List Keyword) :
    FromWord (both (optional assignmentPattern) (anyOf keywords)) := by
  intro place goesOn
  obtain ⟨way, member⟩ := List.exists_mem_of_ne_nil _ goesOn
  rw [ways_optional_both, List.mem_append] at member
  rcases member with assigned | bare
  · obtain ⟨middle, along, -⟩ := mem_ways_both.1 assigned
    obtain ⟨text, assigns, passes⟩ := (takes_assignment _ _).1 along
    obtain ⟨c, rest, rfl, inWord⟩ := assigns.head
    exact ⟨c, rest ++ middle.behind, passes.behind, inWord⟩
  · exact fromWord_anyOf keywords place (List.ne_nil_of_mem bare)

/-- What goes on from a word is searched for behind the opening. -/
theorem exists_search_eq {pattern : Pattern} (fromWord : FromWord pattern) (code : List Char) :
    ∃ place : Place, place.behind = body code ∧
      search (both start (both openingPattern pattern)) code = (pattern.ways place).head? := by
  obtain ⟨opening, opens, cut⟩ := exists_opening code
  refine ⟨⟨opening.reverse, body code, none⟩, rfl, ?_⟩
  rw [search_start]
  refine takes_opening.head?_both opens ⟨cut, by simp, rfl⟩ fun other text opensText passes goesOn => ?_
  obtain ⟨c, rest, behind, inWord⟩ := fromWord other goesOn
  have split : code = text ++ other.behind := passes.behind
  rw [split, behind, body_opening opensText inWord]

section

variable {keywords : List Keyword} {midBlock : Bool}

theorem preferred_anyOf (sort : ∀ keyword, keyword ∈ keywords ↔ keyword.isMidBlock = midBlock)
    (place : Place) : preferred ((anyOf keywords).ways place) = leading? midBlock place.behind := by
  cases found : (anyOf keywords).ways place with
  | nil =>
      refine Eq.symm (eq_none_of_not_fits leading?_eq_some_iff.symm fun keyword => ?_)
      rintro ⟨sorted, rest, behind, ends⟩
      have way : ⟨keyword.word.toList.reverse ++ place.before, rest, some keyword.word.toList⟩ ∈
          (anyOf keywords).ways place :=
        mem_ways_anyOf.2 ⟨keyword, (sort keyword).2 sorted, behind, inWord_eq_false_iff.2 ends, rfl, rfl⟩
      rw [found] at way
      cases way
  | cons way ways =>
      have member : way ∈ (anyOf keywords).ways place := found ▸ List.mem_cons_self
      obtain ⟨keyword, listed, behind, ends, -, kept⟩ := mem_ways_anyOf.1 member
      have starts : keyword.Starts place.behind := ⟨way.behind, behind, inWord_eq_false_iff.1 ends⟩
      rw [leading?_eq_some_iff.2 ⟨(sort keyword).1 listed, starts⟩, preferred, List.head?_cons,
        Option.bind_some, kept?, kept, Option.bind_some, ofWord?_eq_some_iff]

theorem afterAssignment?_of_passes {place middle : Place} {text : List Char}
    (assigns : IsAssignment text) (passes : place.Passes text middle)
    (goesOn : (anyOf keywords).ways middle ≠ []) :
    afterAssignment? place.behind = some middle.behind := by
  obtain ⟨c, rest, behind, inWord⟩ := fromWord_anyOf keywords middle goesOn
  rw [passes.behind, behind, assigns.afterAssignment?_eq inWord]

theorem preferred_assigned (sort : ∀ keyword, keyword ∈ keywords ↔ keyword.isMidBlock = midBlock)
    (place : Place) :
    preferred ((both assignmentPattern (anyOf keywords)).ways place) =
      (afterAssignment? place.behind).bind (leading? midBlock) := by
  cases read : afterAssignment? place.behind with
  | none =>
      have stuck : (both assignmentPattern (anyOf keywords)).ways place = [] := by
        by_contra goesOn
        obtain ⟨way, member⟩ := List.exists_mem_of_ne_nil _ goesOn
        obtain ⟨middle, along, onward⟩ := mem_ways_both.1 member
        obtain ⟨text, assigns, passes⟩ := (takes_assignment _ _).1 along
        have other := afterAssignment?_of_passes assigns passes (List.ne_nil_of_mem onward)
        rw [read] at other
        cases other
      rw [stuck]
      rfl
  | some rest =>
      obtain ⟨text, cut, assigns⟩ := exists_assignment_of_afterAssignment? read
      have along : place.Passes text ⟨text.reverse ++ place.before, rest, place.kept⟩ :=
        ⟨cut, rfl, rfl⟩
      rw [preferred, takes_assignment.head?_both assigns along fun other taken assignsTaken passes
        goesOn => by
          have again := afterAssignment?_of_passes assignsTaken passes goesOn
          exact Option.some.inj (again.symm.trans read)]
      exact preferred_anyOf sort _

end

theorem mem_arms (keyword : Keyword) : keyword ∈ arms ↔ keyword.isMidBlock = true := by
  cases keyword <;> decide

theorem mem_blocks (keyword : Keyword) : keyword ∈ blocks ↔ keyword.isMidBlock = false := by
  cases keyword <;> decide

/-- The patterns and the reader find the same keyword. -/
theorem matched_eq_detect (code : List Char) (assignable : Bool) :
    matched code assignable = detect code assignable := by
  obtain ⟨armPlace, armBehind, armSearch⟩ := exists_search_eq (fromWord_anyOf arms) code
  have block : (search (if assignable then assignedBlockPattern else blockPattern) code).bind kept? =
      (if assignable then (afterAssignment? (body code)).bind (leading? false) else none).or
        (leading? false (body code)) := by
    cases assignable with
    | true =>
        obtain ⟨place, behind, found⟩ := exists_search_eq (fromWord_assigned blocks) code
        rw [if_pos rfl, if_pos rfl, assignedBlockPattern, found, ways_optional_both, List.head?_append,
          (keeping_assigned blocks place).bind_or, preferred_assigned mem_blocks, behind]
        exact congrArg _ (behind ▸ preferred_anyOf mem_blocks place)
    | false =>
        obtain ⟨place, behind, found⟩ := exists_search_eq (fromWord_anyOf blocks) code
        rw [if_neg (by decide), if_neg (by decide), blockPattern, found, Option.none_or]
        exact behind ▸ preferred_anyOf mem_blocks place
  rw [matched, armPattern, armSearch, (keeping_anyOf arms armPlace).bind_or,
    preferred_anyOf mem_arms, armBehind, block, detect, Option.or_assoc]

/-! ## The order of the forms -/

/-- What the patterns and the reader find is decided by the order of the forms, over all codes. A
keyword that goes on with a block is found exactly where its form fits, and at most one keyword fits
a form. -/
theorem detect_ordered (code : List Char) (assignable : Bool) :
    matched code assignable = detect code assignable ∧
      (∀ found, detect code assignable = found ↔ Detects code assignable found) ∧
      (∀ keyword, (detect code assignable = some keyword ∧ keyword.isMidBlock = true) ↔
        Continues keyword code) ∧
      (∀ keyword other, Continues keyword code → Continues other code → keyword = other) ∧
      (∀ keyword other, Assigns keyword code → Assigns other code → keyword = other) ∧
      (∀ keyword other, Opens keyword code → Opens other code → keyword = other) := by
  refine ⟨matched_eq_detect code assignable, fun found => detect_eq_iff,
    fun keyword => detect_midBlock_iff, ?_, ?_, ?_⟩
  · exact fun _ _ => eq_of_fits continues_iff
  · exact fun _ _ => eq_of_fits assigns_iff
  · exact fun _ _ => eq_of_fits opens_iff

/-- A name that is a keyword too: the same code in both modes, and a code whose first keyword goes
on with a block. -/
theorem detect_ordered_two_keywords :
    Detects "if = case x".toList true (some .caseBlock) ∧
      Detects "if = case x".toList false (some .ifBlock) ∧
      Continues .elseArm "else = if y".toList := by
  refine ⟨?_, ?_, ?_⟩
  · exact ((detect_ordered "if = case x".toList true).2.1 _).1 (by decide +kernel)
  · exact ((detect_ordered "if = case x".toList false).2.1 _).1 (by decide +kernel)
  · exact ((detect_ordered "else = if y".toList true).2.2.1 _).1 (by decide +kernel)

end HamlTree.Keyword
