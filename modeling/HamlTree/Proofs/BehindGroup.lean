import HamlTree.Proofs.ElementGrammar

/-!
# BehindGroup -- the line behind an attribute group

Behind a blank an element's line holds text: the signs of a group, of white space to remove, of an
element that closes itself and of code count only where they stand directly behind the head
(`readTail_plain`). Reading a group also cuts the white space behind it, so that a second group can
follow, and what was behind a blank then stands directly behind the group.

So a group keeps the meaning of the rest of the line exactly if the first visible character there is
none of `shiftedSigns` (`read_group_iff`). With one of them the line is read as something else:
`%p{a} /b` is refused, where `%p /b` holds the text `/b`.
-/

set_option autoImplicit false

namespace HamlTree

open Text HamlTree.Bracket

namespace Text

theorem trimStart_trimStart (text : List Char) : trimStart (trimStart text) = trimStart text :=
  List.dropWhile_idempotent _ text

theorem length_trimStart_le (text : List Char) : (trimStart text).length ≤ text.length :=
  (List.dropWhile_sublist _).length_le

theorem length_trim_le (text : List Char) : (trim text).length ≤ text.length := by
  have front := length_trimStart_le text
  have back := (List.dropWhile_sublist (l := (trimStart text).reverse) isSpace).length_le
  rw [List.length_reverse] at back
  simp only [trim, trimEnd, dropEndWhile, List.length_reverse]
  omega

end Text

/-! ## Text behind a sign -/

namespace Expression

/-- The signs in front of code and of text that is escaped or not. -/
def signs : List Char :=
  ['=', '~', '&', '!']

theorem words_ne {shorter text : List Char} (fewer : shorter.length < text.length)
    (escapes : Bool) : words shorter escapes ≠ words text true := by
  intro same
  injection same with same
  rw [String.ofList_injective same] at fewer
  exact Nat.lt_irrefl _ fewer

theorem code_ne_words (text : List Char) (preserves escapes : Bool) (feed : Feed)
    (whole : List Char) : (code text preserves escapes feed).1 ≠ .ok (words whole true) := by
  intro reads
  obtain ⟨_, _, same⟩ := code_eq_ok reads
  cases same

theorem output_ne_words (text : List Char) (preserves : Bool) (feed : Feed) (sign : Char) :
    (output text preserves feed).1 ≠ .ok (words (sign :: text) true) := by
  unfold output
  split
  · rename_i interpolated
    intro same
    have fewer := length_trim_le interpolated
    exact words_ne (by simp; omega) true (Except.ok.inj same)
  · exact code_ne_words _ _ _ _ _

theorem flagged_ne_words (text : List Char) (escapes : Bool) (feed : Feed) (sign : Char) :
    (flagged text escapes feed).1 ≠ .ok (words (sign :: text) true) := by
  unfold flagged
  split
  · rename_i interpolated
    intro same
    have fewer := length_trimStart_le interpolated
    exact words_ne (by simp; omega) escapes (Except.ok.inj same)
  · exact code_ne_words _ _ _ _ _
  · exact code_ne_words _ _ _ _ _
  · intro same
    have fewer := length_trim_le text
    exact words_ne (by simp; omega) escapes (Except.ok.inj same)

/-- Behind a sign, the text is not read as it stands. -/
theorem read_ne_words {c : Char} (sign : c ∈ signs) (rest : List Char) (feed : Feed) :
    (read (c :: rest) feed).1 ≠ .ok (some (words (c :: rest) true)) := by
  intro reads
  simp only [signs, List.mem_cons, List.not_mem_nil, or_false] at sign
  rcases sign with rfl | rfl | rfl | rfl
  · exact output_ne_words _ _ _ _ (present_eq_ok reads)
  · exact output_ne_words _ _ _ _ (present_eq_ok reads)
  · exact flagged_ne_words _ _ _ _ (present_eq_ok reads)
  · exact flagged_ne_words _ _ _ _ (present_eq_ok reads)

theorem read_plain {text : List Char} (plain : ∀ c, text.head? = some c → c ∉ signs)
    (feed : Feed) :
    read text feed =
      (.ok (if (trimStart text).isEmpty then none else some (words (trimStart text) true)), feed) := by
  unfold read
  split
  · exact absurd (by simp [signs]) (plain _ rfl)
  · exact absurd (by simp [signs]) (plain _ rfl)
  · exact absurd (by simp [signs]) (plain _ rfl)
  · exact absurd (by simp [signs]) (plain _ rfl)
  · dsimp only
    split
    · rfl
    · rfl

end Expression

namespace Element

variable {stamp : Stamp} {tag : Tag} {name inside text rest : List Char}
  {selectors : List (Char × List Char)} {feed : Feed} {content : Content}

/-! ## The rest of the line as text -/

/-- The signs that mean something directly behind the attributes. -/
def tailSigns : List Char :=
  ['<', '>', '/'] ++ Expression.signs

/-- The rest of the line as text, if any is visible. -/
def textInline (stamp : Stamp) (text : List Char) : Inline :=
  if (trimStart text).isEmpty then .none else .node stamp (Expression.words (trimStart text) true) []

theorem ofNode?_textInline (stamp : Stamp) (text : List Char) :
    Inline.ofNode? (Option.map (Node.mk stamp)
      (if (trimStart text).isEmpty then none else some (Expression.words (trimStart text) true))) =
        textInline stamp text := by
  unfold textInline
  split
  · rfl
  · rfl

/-- The tag of an element none of whose signs were read yet. -/
def Bare (tag : Tag) : Prop :=
  tag = { tag with selfClosing := false, nukesInner := false, nukesOuter := false }

theorem readNukes_plain (plain : ∀ c, text.head? = some c → c ∉ tailSigns) :
    readNukes text = (⟨false, false⟩, text) := by
  unfold readNukes
  split
  · exact absurd (by simp [tailSigns]) (plain _ rfl)
  · exact absurd (by simp [tailSigns]) (plain _ rfl)
  · exact absurd (by simp [tailSigns]) (plain _ rfl)
  · exact absurd (by simp [tailSigns]) (plain _ rfl)
  · rfl

theorem inner_readNukes (rest : List Char) : (readNukes ('<' :: rest)).1.inner = true := by
  cases rest with
  | nil => rfl
  | cons c rest =>
      by_cases both : c = '>'
      · rw [both]
        rfl
      · simp [readNukes, both]

theorem outer_readNukes (rest : List Char) : (readNukes ('>' :: rest)).1.outer = true := by
  cases rest with
  | nil => rfl
  | cons c rest =>
      by_cases both : c = '<'
      · rw [both]
        rfl
      · simp [readNukes, both]

theorem readSelfClosing_plain (plain : ∀ c, text.head? = some c → c ∉ tailSigns) :
    readSelfClosing text = .ok (false, text) := by
  unfold readSelfClosing
  split
  · exact absurd (by simp [tailSigns]) (plain _ rfl)
  · exact absurd (by simp [tailSigns]) (plain _ rfl)
  · rfl

theorem readTail_plain (bare : Bare tag) (plain : ∀ c, text.head? = some c → c ∉ tailSigns)
    (stamp : Stamp) (feed : Feed) :
    readTail stamp tag text feed = (.ok (.element tag (textInline stamp text)), feed) := by
  have unsigned : ∀ c, text.head? = some c → c ∉ Expression.signs := by
    intro c starts member
    exact plain c starts (List.mem_append_right _ member)
  rw [readTail, readNukes_plain plain]
  dsimp only
  rw [readSelfClosing_plain plain]
  dsimp only
  rw [Expression.read_plain unsigned]
  dsimp only
  rw [ofNode?_textInline, ← bare]

/-- What is read behind the attributes: the signs, and then an expression. -/
theorem readTail_eq_ok (reads : (readTail stamp tag text feed).1 = .ok content) :
    ∃ closing rest inline, readSelfClosing (readNukes text).2 = .ok (closing, rest) ∧
      (Expression.read rest feed).1 = .ok inline ∧
      content = .element
        { tag with
          selfClosing := closing
          nukesInner := (readNukes text).1.inner, nukesOuter := (readNukes text).1.outer }
        (Inline.ofNode? (inline.map (Node.mk stamp))) := by
  unfold readTail at reads
  dsimp only at reads
  split at reads
  · cases reads
  rename_i closing rest closes
  split at reads
  · cases reads
  rename_i inline after expression
  cases reads
  exact ⟨closing, rest, inline, closes, by rw [expression], rfl⟩

theorem eq_some_of_ofNode? {inline : Option Content}
    (same : Inline.ofNode? (inline.map (Node.mk stamp)) = .node stamp content []) :
    inline = some content := by
  cases inline with
  | none => cases same
  | some found =>
      injection same with _ inner
      exact congrArg some inner

/-- Where a sign stands, the rest of the line is not read as text. -/
theorem readTail_ne_text {c : Char} (bare : Bare tag) (sign : c ∈ tailSigns) :
    (readTail stamp tag (c :: rest) feed).1 ≠
      .ok (.element tag (.node stamp (Expression.words (c :: rest) true) [])) := by
  intro reads
  obtain ⟨closing, left, inline, closes, expression, same⟩ := readTail_eq_ok reads
  injection same with tags inlines
  have continues : closing = false := congrArg Tag.selfClosing (tags.symm.trans bare)
  have inner : (readNukes (c :: rest)).1.inner = false :=
    congrArg Tag.nukesInner (tags.symm.trans bare)
  have outer : (readNukes (c :: rest)).1.outer = false :=
    congrArg Tag.nukesOuter (tags.symm.trans bare)
  simp only [tailSigns, List.mem_append, List.mem_cons, List.not_mem_nil, or_false] at sign
  rcases sign with (rfl | rfl | rfl) | sign
  · rw [inner_readNukes] at inner
    cases inner
  · rw [outer_readNukes] at outer
    cases outer
  · cases rest with
    | nil =>
        cases closes
        cases continues
    | cons d rest => cases closes
  · have plain : readNukes (c :: rest) = (⟨false, false⟩, c :: rest) ∧
        readSelfClosing (c :: rest) = .ok (false, c :: rest) := by
      simp only [Expression.signs, List.mem_cons, List.not_mem_nil, or_false] at sign
      rcases sign with rfl | rfl | rfl | rfl
      all_goals exact ⟨rfl, rfl⟩
    rw [plain.1, plain.2] at closes
    cases closes
    rw [eq_some_of_ofNode? inlines.symm] at expression
    exact Expression.read_ne_words sign rest feed expression

/-! ## Behind the head -/

/-- A name with classes and ids. -/
def headText (name : List Char) (selectors : List (Char × List Char)) : List Char :=
  '%' :: (name ++ writtenSelectors selectors)

/-- A head: its name and its classes and ids are what they should be. -/
structure IsHead (name : List Char) (selectors : List (Char × List Char)) : Prop where
  named : name ≠ []
  name : ∀ c ∈ name, isNameChar c = true
  selectors : ∀ selector ∈ selectors, IsSelector selector

theorem isSelectorChar_writtenSelectors (each : ∀ selector ∈ selectors, IsSelector selector) :
    ∀ c ∈ writtenSelectors selectors, isSelectorChar c = true := by
  intro c member
  obtain ⟨selector, chosen, within⟩ := List.mem_flatMap.1 member
  obtain ⟨sign, -, name⟩ := each selector chosen
  rcases List.mem_cons.1 within with rfl | within
  · simp [isSelectorChar, sign]
  · simp [isSelectorChar, name c within]

/-- A head ends in front of any other character. -/
theorem IsHead.read_eq (isHead : IsHead name selectors)
    (ends : ∀ c, rest.head? = some c → isSelectorChar c = false) (oneLine : '\n' ∉ rest)
    (stamp : Stamp) (feed : Feed) :
    read stamp (headText name selectors ++ rest) feed =
      Reading.andThen (readAttributes rest feed) fun taken after =>
        readTail stamp (headTag name selectors taken.1) taken.2 after := by
  have isName : IsRun isNameChar name (writtenSelectors selectors ++ rest) := by
    refine ⟨isHead.name, ?_⟩
    intro c starts
    cases selectors with
    | nil =>
        have other := ends c starts
        simp only [isSelectorChar, Bool.or_eq_false_iff] at other
        exact other.1
    | cons selector selectors =>
        cases starts
        have sign := (isHead.selectors selector List.mem_cons_self).sign
        rw [Bool.eq_false_iff]
        intro letter
        rw [isSelectorSign_of_isNameChar letter] at sign
        cases sign
  have isSelection : IsRun isSelectorChar (writtenSelectors selectors) rest :=
    ⟨isSelectorChar_writtenSelectors isHead.selectors, ends⟩
  have whole : headText name selectors ++ rest =
      '%' :: (name ++ (writtenSelectors selectors ++ rest)) := by
    rw [headText, List.cons_append, List.append_assoc]
  rw [whole]
  exact read_written isHead.named isName isHead.selectors isSelection oneLine stamp feed

/-- The signs that a group brings to the front: those of another group, and those of the tail. -/
def shiftedSigns : List Char :=
  '(' :: tailSigns

/-- Give an element these attributes. -/
def withAttributes (attributes : List Char) : Content → Content
  | .element tag inline => .element { tag with attributes := String.ofList attributes } inline
  | other => other

theorem bare_headTag (attributes : List Char) : Bare (headTag name selectors attributes) :=
  rfl

/-- Behind a blank, everything is text. -/
theorem IsHead.read_apart (isHead : IsHead name selectors) (apart : ∀ c, rest.head? = some c → c = ' ')
    (oneLine : '\n' ∉ rest) (stamp : Stamp) (feed : Feed) :
    read stamp (headText name selectors ++ rest) feed =
      (.ok (.element (headTag name selectors []) (textInline stamp rest)), feed) := by
  have ends : ∀ c, rest.head? = some c → isSelectorChar c = false := by
    intro c starts
    rw [apart c starts]
    decide
  have groupless : ∀ pair ∈ [braces, parens], rest.head? ≠ some pair.opener := by
    intro pair known starts
    have blank := apart _ starts
    simp only [List.mem_cons, List.not_mem_nil, or_false] at known
    rcases known with rfl | rfl
    · exact absurd blank (by decide)
    · exact absurd blank (by decide)
  have plain : ∀ c, rest.head? = some c → c ∉ tailSigns := by
    intro c starts
    rw [apart c starts]
    decide
  rw [isHead.read_eq ends oneLine, readAttributes_eq, readGroupsAux_stops groupless]
  exact readTail_plain (bare_headTag []) plain stamp feed

/-- Behind a group, the rest of the line goes on without its white space. -/
theorem IsHead.read_group (isHead : IsHead name selectors) (balanced : Balanced braces inside)
    (oneLine : '\n' ∉ inside ++ rest) (stamp : Stamp) (feed : Feed) :
    read stamp (headText name selectors ++ '{' :: (inside ++ '}' :: rest)) feed =
      Reading.andThen (readGroupsAux 1 [parens] (trimStart rest) feed) fun taken after =>
        readTail stamp (headTag name selectors (joinWith [',', ' '] (inside :: taken.1)))
          taken.2 after := by
  have ends : ∀ c, ('{' :: (inside ++ '}' :: rest)).head? = some c → isSelectorChar c = false := by
    intro c starts
    cases starts
    decide
  have line : '\n' ∉ '{' :: (inside ++ '}' :: rest) := by
    simpa using oneLine
  have first : readGroupsAux 2 [braces, parens] ('{' :: (inside ++ '}' :: rest)) feed =
      Reading.map (fun others => (inside :: others.1, others.2))
        (readGroupsAux 1 [parens] (trimStart rest) feed) := by
    have opens := readGroupsAux_opens (List.Subset.refl _)
      (show braces ∈ [braces, parens] by decide) 1 (inside ++ '}' :: rest) feed
    have group := readGroup_written (show braces ∈ [braces, parens] by decide) balanced rest feed
    rw [show inside ++ '}' :: rest = inside ++ braces.closer :: rest from rfl, group] at opens
    exact opens
  rw [isHead.read_eq ends line, readAttributes_eq, first]
  rcases readGroupsAux 1 [parens] (trimStart rest) feed with ⟨_ | _, _⟩
  · rfl
  · rfl

theorem joinWith_pair_ne (first second : List Char) : joinWith [',', ' '] [first, second] ≠ first := by
  intro same
  have lengths := congrArg List.length same
  simp [joinWith] at lengths

theorem IsHead.read_group_plain (isHead : IsHead name selectors) (balanced : Balanced braces inside)
    (oneLine : '\n' ∉ inside ++ rest)
    (plain : ∀ c, (trimStart rest).head? = some c → c ∉ shiftedSigns) (stamp : Stamp) (feed : Feed) :
    read stamp (headText name selectors ++ '{' :: (inside ++ '}' :: rest)) feed =
      (.ok (.element (headTag name selectors inside) (textInline stamp rest)), feed) := by
  have groupless : ∀ pair ∈ [parens], (trimStart rest).head? ≠ some pair.opener := by
    intro pair known starts
    rw [List.mem_singleton.1 known] at starts
    exact plain _ starts (by decide)
  have unsigned : ∀ c, (trimStart rest).head? = some c → c ∉ tailSigns := by
    intro c starts member
    exact plain c starts (List.mem_cons_of_mem _ member)
  have same : textInline stamp (trimStart rest) = textInline stamp rest := by
    rw [textInline, trimStart_trimStart, textInline]
  rw [isHead.read_group balanced oneLine, readGroupsAux_stops groupless, ← same]
  exact readTail_plain (bare_headTag inside) unsigned stamp feed

theorem IsHead.read_group_signed {c : Char} (isHead : IsHead name selectors)
    (balanced : Balanced braces inside) (oneLine : '\n' ∉ inside ++ rest)
    (starts : (trimStart rest).head? = some c) (sign : c ∈ shiftedSigns) (stamp : Stamp)
    (feed : Feed) :
    (read stamp (headText name selectors ++ '{' :: (inside ++ '}' :: rest)) feed).1 ≠
      .ok (.element (headTag name selectors inside) (textInline stamp rest)) := by
  obtain ⟨more, visible⟩ := List.head?_eq_some_iff.1 starts
  rw [isHead.read_group balanced oneLine, visible]
  rcases List.mem_cons.1 sign with rfl | sign
  · -- a second group adds to the attributes
    have opens := readGroupsAux_opens (show [parens] ⊆ [braces, parens] by simp)
      (show parens ∈ [parens] by decide) 0 more feed
    rw [show '(' :: more = parens.opener :: more from rfl, opens]
    rcases readGroup parens more feed with ⟨_ | ⟨group, left⟩, after⟩
    · intro reads
      cases reads
    · intro reads
      obtain ⟨_, _, _, -, -, same⟩ := readTail_eq_ok reads
      injection same with tags
      exact joinWith_pair_ne inside group
        (String.ofList_injective (congrArg Tag.attributes tags)).symm
  · have groupless : ∀ pair ∈ [parens], (c :: more).head? ≠ some pair.opener := by
      intro pair known opens
      rw [List.mem_singleton.1 known] at opens
      cases opens
      exact absurd sign (by decide)
    have words : textInline stamp rest = .node stamp (Expression.words (c :: more) true) [] := by
      rw [textInline, visible]
      rfl
    rw [readGroupsAux_stops groupless, words]
    exact readTail_ne_text (bare_headTag inside) sign

/-- A group in braces keeps the reading of the rest of the line, apart from the attributes it adds,
exactly if the rest has none of the shifted signs in front once its white space is gone. Then no line
is taken either. -/
theorem read_group_iff (stamp : Stamp) (name : List Char) (selectors : List (Char × List Char))
    (inside rest : List Char) (feed : Feed) (isHead : IsHead name selectors)
    (balanced : Balanced braces inside) (oneLine : '\n' ∉ inside ++ rest)
    (apart : rest = [] ∨ rest.head? = some ' ') :
    ((read stamp (headText name selectors ++ '{' :: (inside ++ '}' :: rest)) feed).1 =
        (read stamp (headText name selectors ++ rest) feed).1.map (withAttributes inside) ↔
      ∀ c, (trimStart rest).head? = some c → c ∉ shiftedSigns) ∧
    ((∀ c, (trimStart rest).head? = some c → c ∉ shiftedSigns) →
      (read stamp (headText name selectors ++ '{' :: (inside ++ '}' :: rest)) feed).2 = feed ∧
        (read stamp (headText name selectors ++ rest) feed).2 = feed) := by
  have blank : ∀ c, rest.head? = some c → c = ' ' := by
    intro c starts
    rcases apart with rfl | found
    · cases starts
    · exact Option.some.inj (starts.symm.trans found)
  have behind : '\n' ∉ rest := by
    intro member
    exact oneLine (List.mem_append_right _ member)
  rw [isHead.read_apart blank behind]
  refine ⟨⟨?_, ?_⟩, ?_⟩
  · intro same c starts sign
    exact isHead.read_group_signed balanced oneLine starts sign stamp feed same
  · intro plain
    rw [isHead.read_group_plain balanced oneLine plain]
    rfl
  · intro plain
    rw [isHead.read_group_plain balanced oneLine plain]
    exact ⟨rfl, rfl⟩

/-- Text behind a group and a blank. -/
theorem read_group_iff_text :
    (IsHead "p".toList [('.', "x".toList)] ∧ Balanced braces "a: \x7bb: 1\x7d".toList ∧
      '\n' ∉ "a: \x7bb: 1\x7d".toList ++ " c/".toList ∧
      (" c/".toList = [] ∨ " c/".toList.head? = some ' ')) ∧
    (read ⟨none, 1⟩ (headText "p".toList [('.', "x".toList)] ++
        '{' :: ("a: \x7bb: 1\x7d".toList ++ '}' :: " c/".toList)) ⟨none, [], 1⟩).1 =
      (read ⟨none, 1⟩ (headText "p".toList [('.', "x".toList)] ++ " c/".toList)
        ⟨none, [], 1⟩).1.map (withAttributes "a: \x7bb: 1\x7d".toList) := by
  have isHead : IsHead "p".toList [('.', "x".toList)] := by
    refine ⟨by decide, List.all_eq_true.1 (by decide), ?_⟩
    intro selector member
    rw [List.mem_singleton.1 member]
    exact ⟨by decide, by decide, List.all_eq_true.1 (by decide)⟩
  have balanced : Balanced braces "a: \x7bb: 1\x7d".toList :=
    (balanced_iff (by decide)).2 (by decide)
  have oneLine : '\n' ∉ "a: \x7bb: 1\x7d".toList ++ " c/".toList := by decide
  have plain : ∀ c, (trimStart " c/".toList).head? = some c → c ∉ shiftedSigns := by
    intro c starts
    cases starts
    decide
  exact ⟨⟨isHead, balanced, oneLine, .inr rfl⟩,
    (read_group_iff _ _ _ _ _ _ isHead balanced oneLine (.inr rfl)).1.2 plain⟩

/-- A slash behind a group and a blank closes the element; without the group it is text. -/
theorem read_group_slash :
    IsHead "p".toList [] ∧ Balanced braces "a".toList ∧ '\n' ∉ "a".toList ++ " /b".toList ∧
    " /b".toList.head? = some ' ' ∧
    (read ⟨none, 1⟩ (headText "p".toList [] ++ '{' :: ("a".toList ++ '}' :: " /b".toList))
      ⟨none, [], 1⟩).1 = .error .selfClosingContent ∧
    (read ⟨none, 1⟩ (headText "p".toList [] ++ " /b".toList) ⟨none, [], 1⟩).1 =
      .ok (.element (headTag "p".toList [] []) (.node ⟨none, 1⟩ (.text "/b" true) [])) ∧
    (read ⟨none, 1⟩ (headText "p".toList [] ++ '{' :: ("a".toList ++ '}' :: " /b".toList))
      ⟨none, [], 1⟩).1 ≠
      (read ⟨none, 1⟩ (headText "p".toList [] ++ " /b".toList)
        ⟨none, [], 1⟩).1.map (withAttributes "a".toList) := by
  have isHead : IsHead "p".toList [] := ⟨by decide, List.all_eq_true.1 (by decide), by simp⟩
  have balanced : Balanced braces "a".toList := (balanced_iff (by decide)).2 (by decide)
  have grouped : (read ⟨none, 1⟩ (headText "p".toList [] ++
      '{' :: ("a".toList ++ '}' :: " /b".toList)) ⟨none, [], 1⟩).1 = .error .selfClosingContent := by
    decide +kernel
  have groupless : (read ⟨none, 1⟩ (headText "p".toList [] ++ " /b".toList) ⟨none, [], 1⟩).1 =
      .ok (.element (headTag "p".toList [] []) (.node ⟨none, 1⟩ (.text "/b" true) [])) := by
    decide +kernel
  refine ⟨isHead, balanced, by decide, rfl, grouped, groupless, ?_⟩
  rw [grouped, groupless]
  intro same
  cases same

end Element

end HamlTree
