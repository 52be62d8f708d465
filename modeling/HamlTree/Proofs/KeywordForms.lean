import HamlTree.Keyword
import HamlTree.Proofs.ElementGrammar

/-!
# KeywordForms -- the forms of code that carry a block keyword

`Keyword.detect` reads the code from the left: it skips a sign and white space, cuts the longest
word, and walks over an assignment one character at a time. Here the same is said without a reader,
as a grammar of three forms:

* `Continues`: an opening and a keyword that goes on with a block;
* `Assigns`: an opening, an assignment and a keyword that starts a block;
* `Opens`: an opening and a keyword that starts a block.

Each keyword is a whole word. Several forms can fit one code: `if = case x` opens with one keyword
and assigns another. `Detects` orders them, and `detect_eq_iff` is the agreement of the reader with
that order over all codes.

A reader and a grammar agree because nothing can be cut in two ways: white space, the characters of
a name, `,` and `=` exclude each other, so each run ends where the next part starts.
-/

set_option autoImplicit false

namespace HamlTree

open Text

/-! ## White space and names -/

namespace Text

/-- The code points of white space. -/
def spaces : List Nat :=
  List.range' 0x09 5 ++ [0x20, 0x85, 0xA0, 0x1680] ++ List.range' 0x2000 11 ++
    [0x2028, 0x2029, 0x202F, 0x205F, 0x3000]

theorem toNat_mem_spaces {c : Char} (blank : isSpace c = true) : c.toNat ∈ spaces := by
  simp only [isSpace, Bool.or_eq_true, Bool.and_eq_true, decide_eq_true_eq, beq_iff_eq] at blank
  simp only [spaces, List.mem_append, List.mem_range'_1, List.mem_cons, List.not_mem_nil, or_false]
  omega

/-- No white space stands inside a name. -/
theorem isSpace_eq_false_of_isWord {c : Char} (inWord : isWord c = true) : isSpace c = false := by
  have apart : ∀ point ∈ spaces, isWord (Char.ofNat point) = false := by decide +kernel
  by_contra blank
  have outside := apart c.toNat (toNat_mem_spaces (by simpa using blank))
  rw [Char.ofNat_toNat, inWord] at outside
  cases outside

end Text

namespace Keyword

/-- The text is white space. -/
def IsBlank (text : List Char) : Prop :=
  ∀ c ∈ text, isSpace c = true

/-- The text is a name: one or more characters of a word. -/
def IsName (text : List Char) : Prop :=
  text ≠ [] ∧ ∀ c ∈ text, isWord c = true

/-! ## The forms -/

/-- The keyword stands at the start of the text, and the word ends with it. -/
def Starts (keyword : Keyword) (text : List Char) : Prop :=
  ∃ rest, text = keyword.word.toList ++ rest ∧ ∀ c, rest.head? = some c → isWord c = false

/-- An optional sign and any white space behind it. -/
inductive IsOpening : List Char → Prop
  | unsigned {blanks : List Char} (blank : IsBlank blanks) : IsOpening blanks
  | signed {blanks : List Char} (blank : IsBlank blanks) : IsOpening ('-' :: blanks)

/-- Names with commas between them, and any white space behind each comma. -/
inductive IsNames : List Char → Prop
  | one {name : List Char} (named : IsName name) : IsNames name
  | more {name blanks names : List Char} (named : IsName name) (blank : IsBlank blanks)
      (others : IsNames names) : IsNames (name ++ ',' :: (blanks ++ names))

/-- Names and one sign of equality, with any white space on both sides of it. -/
def IsAssignment (text : List Char) : Prop :=
  ∃ names before behind, text = names ++ (before ++ '=' :: behind) ∧
    IsNames names ∧ IsBlank before ∧ IsBlank behind

/-- An opening and an assignment. -/
def IsAssigningOpening (text : List Char) : Prop :=
  ∃ opening assignment, text = opening ++ assignment ∧ IsOpening opening ∧ IsAssignment assignment

/-- The code is such a lead and the keyword behind it. -/
def StandsBehind (lead : List Char → Prop) (keyword : Keyword) (code : List Char) : Prop :=
  ∃ before text, code = before ++ text ∧ lead before ∧ keyword.Starts text

/-- The code goes on with a block. -/
def Continues (keyword : Keyword) (code : List Char) : Prop :=
  keyword.isMidBlock = true ∧ StandsBehind IsOpening keyword code

/-- The code assigns the value of a block that it starts. -/
def Assigns (keyword : Keyword) (code : List Char) : Prop :=
  keyword.isMidBlock = false ∧ StandsBehind IsAssigningOpening keyword code

/-- The code starts a block. -/
def Opens (keyword : Keyword) (code : List Char) : Prop :=
  keyword.isMidBlock = false ∧ StandsBehind IsOpening keyword code

/-- The order of the forms: a form counts where no form before it fits, and an assignment only
where one may stand. -/
inductive Detects (code : List Char) (assignable : Bool) : Option Keyword → Prop
  | continuing {keyword : Keyword} (fits : Continues keyword code) :
      Detects code assignable (some keyword)
  | assigned {keyword : Keyword} (noArm : ∀ other, ¬ Continues other code)
      (allowed : assignable = true) (fits : Assigns keyword code) :
      Detects code assignable (some keyword)
  | opening {keyword : Keyword} (noArm : ∀ other, ¬ Continues other code)
      (noTarget : assignable = true → ∀ other, ¬ Assigns other code) (fits : Opens keyword code) :
      Detects code assignable (some keyword)
  | nothing (noArm : ∀ other, ¬ Continues other code)
      (noTarget : assignable = true → ∀ other, ¬ Assigns other code)
      (noBlock : ∀ other, ¬ Opens other code) : Detects code assignable none

/-! ## Words -/

theorem IsName.exists_cons {name : List Char} (named : IsName name) :
    ∃ c rest, name = c :: rest ∧ isWord c = true ∧ ∀ d ∈ rest, isWord d = true := by
  obtain ⟨written, inWord⟩ := named
  obtain ⟨c, rest, rfl⟩ := List.exists_cons_of_ne_nil written
  exact ⟨c, rest, rfl, List.forall_mem_cons.1 inWord⟩

theorem isName_word (keyword : Keyword) : IsName keyword.word.toList := by
  have written : keyword.word.toList ≠ [] := by cases keyword <;> simp [word]
  have spelled : keyword.word.toList.all isWord = true := by cases keyword <;> rfl
  exact ⟨written, List.all_eq_true.1 spelled⟩

theorem ofWord?_eq_some_iff {text : List Char} {keyword : Keyword} :
    ofWord? text = some keyword ↔ keyword.word.toList = text := by
  constructor
  · intro found
    simpa using List.find?_some found
  · rintro rfl
    cases keyword <;> rfl

theorem leading?_eq_some_iff {midBlock : Bool} {text : List Char} {keyword : Keyword} :
    leading? midBlock text = some keyword ↔
      keyword.isMidBlock = midBlock ∧ keyword.Starts text := by
  rw [leading?, Option.filter_eq_some_iff, ofWord?_eq_some_iff, beq_iff_eq, and_comm]
  refine and_congr_right fun _ => ⟨fun cut => ?_, ?_⟩
  · have isRun := isRun_takeWhile isWord text
    exact ⟨text.dropWhile isWord, by rw [cut, List.takeWhile_append_dropWhile], isRun.ends⟩
  · rintro ⟨rest, rfl, ends⟩
    exact (IsRun.mk (isName_word keyword).2 ends).takeWhile_eq.symm

/-- A keyword's text starts with a character of a word, which is no white space. -/
theorem Starts.head {keyword : Keyword} {text : List Char} (starts : keyword.Starts text) :
    ∃ c rest, text = c :: rest ∧ isWord c = true := by
  obtain ⟨rest, rfl, -⟩ := starts
  obtain ⟨c, more, spelled, inWord, -⟩ := (isName_word keyword).exists_cons
  exact ⟨c, more ++ rest, by rw [spelled, List.cons_append], inWord⟩

/-! ## What may stand before a keyword -/

theorem isBlank_takeWhile (text : List Char) : IsBlank (text.takeWhile isSpace) :=
  (isRun_takeWhile isSpace text).all

theorem exists_opening (code : List Char) :
    ∃ opening, IsOpening opening ∧ code = opening ++ body code := by
  unfold body
  split
  · next rest =>
      exact ⟨'-' :: rest.takeWhile isSpace, .signed (isBlank_takeWhile rest), by
        simp [trimStart, List.takeWhile_append_dropWhile]⟩
  · exact ⟨code.takeWhile isSpace, .unsigned (isBlank_takeWhile code), by
      simp [trimStart, List.takeWhile_append_dropWhile]⟩

theorem trimStart_blank {blanks rest : List Char} {c : Char} (blank : IsBlank blanks)
    (ends : isSpace c = false) : trimStart (blanks ++ c :: rest) = c :: rest := by
  have isRun : IsRun isSpace blanks (c :: rest) := ⟨blank, by simpa using ends⟩
  exact isRun.dropWhile_eq

theorem body_opening {opening rest : List Char} {c : Char} (opens : IsOpening opening)
    (inWord : isWord c = true) : body (opening ++ c :: rest) = c :: rest := by
  have ends := isSpace_eq_false_of_isWord inWord
  cases opens with
  | signed blank => exact trimStart_blank blank ends
  | unsigned blank =>
      -- no sign is taken off: white space is no sign, and neither is the character of a word
      have unsigned : ∀ more, opening ++ c :: rest ≠ '-' :: more := by
        intro more same
        cases opening with
        | nil => cases same; revert inWord; decide
        | cons first _ => cases same; have := blank '-' List.mem_cons_self; revert this; decide
      unfold body
      split
      · next same => exact absurd same (unsigned _)
      · exact trimStart_blank blank ends

/-! ## Assignments -/

theorem afterNames?_run {run rest : List Char} (inWord : ∀ c ∈ run, isWord c = true) :
    afterNames? .name (run ++ rest) = afterNames? .name rest := by
  induction run with
  | nil => rfl
  | cons c run ih =>
      rw [List.forall_mem_cons] at inWord
      rw [List.cons_append, afterNames?, if_pos inWord.1, ih inWord.2]

theorem afterNames?_name {name rest : List Char} (named : IsName name) :
    afterNames? .start (name ++ rest) = afterNames? .name rest := by
  obtain ⟨c, more, rfl, inWord, moreInWord⟩ := named.exists_cons
  rw [List.cons_append, afterNames?, if_pos inWord, afterNames?_run moreInWord]

/-- White space behind a comma is passed over, up to the name that has to follow. -/
theorem afterNames?_blank {blanks rest : List Char} {c : Char} (blank : IsBlank blanks)
    (inWord : isWord c = true) :
    afterNames? .comma (blanks ++ c :: rest) = afterNames? .start (c :: rest) := by
  induction blanks with
  | nil => simp [afterNames?, inWord, isSpace_eq_false_of_isWord inWord]
  | cons space blanks ih =>
      rw [IsBlank, List.forall_mem_cons] at blank
      rw [← ih blank.2, List.cons_append, afterNames?, if_pos blank.1]

theorem IsNames.head {names : List Char} (isNames : IsNames names) :
    ∃ c rest, names = c :: rest ∧ isWord c = true := by
  cases isNames with
  | one named | more named =>
      obtain ⟨c, rest, rfl, inWord, -⟩ := named.exists_cons
      exact ⟨c, _, rfl, inWord⟩

/-- The reader passes over names as over one name, and goes on inside the last of them. -/
theorem IsNames.afterNames?_eq {names : List Char} (isNames : IsNames names) (rest : List Char) :
    afterNames? .start (names ++ rest) = afterNames? .name rest := by
  induction isNames with
  | one named => exact afterNames?_name named
  | @more name blanks names named blank others ih =>
      obtain ⟨c, more, rfl, inWord⟩ := others.head
      have comma : isWord ',' = false := by decide
      rw [List.append_assoc, afterNames?_name named, List.cons_append, List.append_assoc,
        afterNames?, comma]
      simp only [Bool.false_eq_true, if_false, if_true]
      rw [List.cons_append, afterNames?_blank blank inWord, ← List.cons_append, ih]

/-- The text completes names of which this much is read. -/
def Completes : NamesState → List Char → Prop
  | .start, text => IsNames text
  | .name, text => ∀ name, IsName name → IsNames (name ++ text)
  | .comma, text => ∃ blanks names, text = blanks ++ names ∧ IsBlank blanks ∧ IsNames names

theorem Completes.after_word {text : List Char} {c : Char} (inWord : isWord c = true)
    (completes : Completes .name text) :
    Completes .start (c :: text) ∧ Completes .name (c :: text) := by
  constructor
  · exact completes [c] ⟨by simp, by simpa using inWord⟩
  · intro name named
    have longer : IsName (name ++ [c]) :=
      ⟨by simp, List.forall_mem_append.2 ⟨named.2, by simpa using inWord⟩⟩
    simpa using completes (name ++ [c]) longer

/-- What the reader of names passes over completes the names read before it. -/
theorem exists_names_of_afterNames? {state : NamesState} {text rest : List Char}
    (read : afterNames? state text = some rest) :
    ∃ names, text = names ++ rest ∧ Completes state names := by
  fun_induction afterNames? state text with
  | case1 | case11 =>
      cases read
      exact ⟨[], rfl, fun name named => by simpa using .one named⟩
  | case2 | case3 | case5 | case8 => cases read
  | case4 c text inWord ih =>
      obtain ⟨names, rfl, completes⟩ := ih read
      exact ⟨c :: names, rfl, (completes.after_word inWord).1⟩
  | case6 c text blank ih =>
      obtain ⟨_, rfl, blanks, names, rfl, blanksBlank, isNames⟩ := ih read
      exact ⟨c :: (blanks ++ names), rfl, c :: blanks, names, rfl,
        List.forall_mem_cons.2 ⟨blank, blanksBlank⟩, isNames⟩
  | case7 c text solid inWord ih =>
      obtain ⟨names, rfl, completes⟩ := ih read
      exact ⟨c :: names, rfl, [], c :: names, rfl, by simp [IsBlank],
        (completes.after_word inWord).1⟩
  | case9 c text inWord ih =>
      obtain ⟨names, rfl, completes⟩ := ih read
      exact ⟨c :: names, rfl, (completes.after_word inWord).2⟩
  | case10 text comma ih =>
      obtain ⟨_, rfl, blanks, names, rfl, blank, isNames⟩ := ih read
      exact ⟨',' :: (blanks ++ names), rfl, fun name named => .more named blank isNames⟩

theorem exists_assignment_of_afterAssignment? {text rest : List Char}
    (read : afterAssignment? text = some rest) :
    ∃ assignment, text = assignment ++ rest ∧ IsAssignment assignment := by
  unfold afterAssignment? at read
  split at read
  · next behind cut =>
      obtain ⟨left, passed, signed⟩ := Option.map_eq_some_iff.1 cut
      obtain ⟨names, rfl, isNames⟩ := exists_names_of_afterNames? passed
      obtain rfl : trimStart behind = rest := Option.some.inj read
      refine ⟨names ++ (left.takeWhile isSpace ++ '=' :: behind.takeWhile isSpace), ?_,
        names, _, _, rfl, isNames, isBlank_takeWhile left, isBlank_takeWhile behind⟩
      simp only [List.append_assoc, List.cons_append]
      rw [trimStart, List.takeWhile_append_dropWhile, ← signed, trimStart,
        List.takeWhile_append_dropWhile]
  · cases read

/-- Behind a name the reader stops at white space and at the sign of equality. -/
theorem afterNames?_sign {blanks rest : List Char} (blank : IsBlank blanks) :
    afterNames? .name (blanks ++ '=' :: rest) = some (blanks ++ '=' :: rest) := by
  have stops {c : Char} {more : List Char} (outside : isWord c = false) (noComma : c ≠ ',') :
      afterNames? .name (c :: more) = some (c :: more) := by
    rw [afterNames?, outside]
    simp [noComma]
  cases blanks with
  | nil => exact stops (by decide) (by decide)
  | cons c blanks =>
      have space := blank c List.mem_cons_self
      refine stops ?_ ?_
      · by_contra inWord
        have solid := isSpace_eq_false_of_isWord (by simpa using inWord)
        rw [space] at solid
        cases solid
      · rintro rfl
        revert space
        decide

theorem IsAssignment.afterAssignment?_eq {assignment rest : List Char} {c : Char}
    (assigns : IsAssignment assignment) (inWord : isWord c = true) :
    afterAssignment? (assignment ++ c :: rest) = some (c :: rest) := by
  obtain ⟨names, before, behind, rfl, isNames, beforeBlank, behindBlank⟩ := assigns
  have sign : isSpace '=' = false := by decide
  have passed : afterNames? .start (names ++ (before ++ '=' :: (behind ++ c :: rest))) =
      some (before ++ '=' :: (behind ++ c :: rest)) := by
    rw [isNames.afterNames?_eq, afterNames?_sign beforeBlank]
  simp only [afterAssignment?, List.append_assoc, List.cons_append, passed, Option.map_some,
    trimStart_blank beforeBlank sign]
  rw [trimStart_blank behindBlank (isSpace_eq_false_of_isWord inWord)]

theorem IsAssignment.head {assignment : List Char} (assigns : IsAssignment assignment) :
    ∃ c rest, assignment = c :: rest ∧ isWord c = true := by
  obtain ⟨names, before, behind, rfl, isNames, -, -⟩ := assigns
  obtain ⟨c, rest, rfl, inWord⟩ := isNames.head
  exact ⟨c, _, List.cons_append, inWord⟩

/-! ## The forms and the reader -/

theorem standsBehind_opening_iff {keyword : Keyword} {code : List Char} :
    StandsBehind IsOpening keyword code ↔ keyword.Starts (body code) := by
  constructor
  · rintro ⟨opening, text, rfl, opens, starts⟩
    obtain ⟨c, rest, rfl, inWord⟩ := starts.head
    rwa [body_opening opens inWord]
  · intro starts
    obtain ⟨opening, opens, split⟩ := exists_opening code
    exact ⟨opening, body code, split, opens, starts⟩

theorem standsBehind_assigningOpening_iff {keyword : Keyword} {code : List Char} :
    StandsBehind IsAssigningOpening keyword code ↔
      ∃ text, afterAssignment? (body code) = some text ∧ keyword.Starts text := by
  constructor
  · rintro ⟨_, text, rfl, ⟨opening, assignment, rfl, opens, assigns⟩, starts⟩
    obtain ⟨c, rest, rfl, inWord⟩ := starts.head
    refine ⟨c :: rest, ?_, starts⟩
    have uncovered : body (opening ++ (assignment ++ c :: rest)) = assignment ++ c :: rest := by
      obtain ⟨first, more, rfl, firstInWord⟩ := assigns.head
      exact body_opening opens firstInWord
    rw [List.append_assoc, uncovered, assigns.afterAssignment?_eq inWord]
  · rintro ⟨text, read, starts⟩
    obtain ⟨opening, opens, split⟩ := exists_opening code
    obtain ⟨assignment, cut, assigns⟩ := exists_assignment_of_afterAssignment? read
    refine ⟨opening ++ assignment, text, ?_, ⟨opening, assignment, rfl, opens, assigns⟩, starts⟩
    rw [List.append_assoc, ← cut, ← split]

theorem continues_iff {keyword : Keyword} {code : List Char} :
    Continues keyword code ↔ leading? true (body code) = some keyword := by
  rw [Continues, standsBehind_opening_iff, leading?_eq_some_iff]

theorem opens_iff {keyword : Keyword} {code : List Char} :
    Opens keyword code ↔ leading? false (body code) = some keyword := by
  rw [Opens, standsBehind_opening_iff, leading?_eq_some_iff]

theorem assigns_iff {keyword : Keyword} {code : List Char} :
    Assigns keyword code ↔
      (afterAssignment? (body code)).bind (leading? false) = some keyword := by
  rw [Assigns, standsBehind_assigningOpening_iff, Option.bind_eq_some_iff, ← exists_and_left]
  exact exists_congr fun text => by rw [leading?_eq_some_iff, and_left_comm]

/-! ## The order of the forms -/

/-- Some form fits, or none does, so the order decides every code. -/
theorem exists_detects (code : List Char) (assignable : Bool) :
    ∃ found, Detects code assignable found := by
  by_cases arm : ∃ keyword, Continues keyword code
  · obtain ⟨keyword, fits⟩ := arm
    exact ⟨some keyword, .continuing fits⟩
  have noArm := not_exists.1 arm
  by_cases target : assignable = true ∧ ∃ keyword, Assigns keyword code
  · obtain ⟨allowed, keyword, fits⟩ := target
    exact ⟨some keyword, .assigned noArm allowed fits⟩
  have noTarget (allowed : assignable = true) : ∀ other, ¬ Assigns other code :=
    fun other fits => target ⟨allowed, other, fits⟩
  by_cases block : ∃ keyword, Opens keyword code
  · obtain ⟨keyword, fits⟩ := block
    exact ⟨some keyword, .opening noArm noTarget fits⟩
  · exact ⟨none, .nothing noArm noTarget (not_exists.1 block)⟩

/-- Where no keyword fits, its reader finds none. -/
theorem eq_none_of_not_fits {form : Keyword → Prop} {read : Option Keyword}
    (reads : ∀ {keyword}, form keyword ↔ read = some keyword) (unfit : ∀ keyword, ¬ form keyword) :
    read = none :=
  Option.eq_none_iff_forall_ne_some.2 fun keyword found => unfit keyword (reads.2 found)

/-- One reader finds one keyword. -/
theorem eq_of_fits {form : Keyword → Prop} {read : Option Keyword}
    (reads : ∀ {keyword}, form keyword ↔ read = some keyword) {keyword other : Keyword}
    (fits : form keyword) (otherFits : form other) : keyword = other :=
  Option.some.inj ((reads.1 fits).symm.trans (reads.1 otherFits))

/-- What the order decides is what the reader finds. -/
theorem Detects.detect_eq {code : List Char} {assignable : Bool} {found : Option Keyword}
    (detects : Detects code assignable found) : detect code assignable = found := by
  have target (noTarget : assignable = true → ∀ other, ¬ Assigns other code) :
      (if assignable then (afterAssignment? (body code)).bind (leading? false) else none) = none := by
    split
    · next allowed => exact eq_none_of_not_fits assigns_iff (noTarget allowed)
    · rfl
  rw [detect]
  cases detects with
  | continuing fits => rw [continues_iff.1 fits, Option.some_or, Option.some_or]
  | assigned noArm allowed fits =>
      rw [eq_none_of_not_fits continues_iff noArm, if_pos allowed, assigns_iff.1 fits,
        Option.none_or, Option.some_or]
  | opening noArm noTarget fits =>
      rw [eq_none_of_not_fits continues_iff noArm, target noTarget, opens_iff.1 fits,
        Option.none_or, Option.none_or]
  | nothing noArm noTarget noBlock =>
      rw [eq_none_of_not_fits continues_iff noArm, target noTarget,
        eq_none_of_not_fits opens_iff noBlock, Option.none_or, Option.none_or]

/-- The reader finds what the order decides. -/
theorem detect_eq_iff {code : List Char} {assignable : Bool} {found : Option Keyword} :
    detect code assignable = found ↔ Detects code assignable found := by
  obtain ⟨decided, detects⟩ := exists_detects code assignable
  refine ⟨?_, Detects.detect_eq⟩
  rintro rfl
  rwa [detects.detect_eq]

/-- A keyword that goes on with a block is found exactly where its form fits. -/
theorem detect_midBlock_iff {code : List Char} {assignable : Bool} {keyword : Keyword} :
    (detect code assignable = some keyword ∧ keyword.isMidBlock = true) ↔
      Continues keyword code := by
  constructor
  · rintro ⟨found, midBlock⟩
    cases detect_eq_iff.1 found with
    | continuing fits => exact fits
    | assigned _ _ fits | opening _ _ fits => exact absurd (fits.1.symm.trans midBlock) (by decide)
  · exact fun fits => ⟨detect_eq_iff.2 (.continuing fits), fits.1⟩

end Keyword

end HamlTree
