import HamlTree.Proofs.BehindGroup

/-!
# EscapeSign -- the sign that asks for what happens anyway

Code that is put out is escaped unless a `!` stands in front of it, and so is the text behind `==`. A
`&` asks for just that, so in front of an output sign it should make no difference. In front of code it
makes none (`read_ampersand_code`), but two other bodies are read by different rules with it and
without it:

* the text behind `==` loses its white space at both ends, the text behind `&==` at the front only,
  which differs for a text that `TrailsOff` (`read_ampersand_words_iff`);
* a `=` behind `~` makes a text of what follows, while behind `&~` it belongs to the code
  (`read_ampersand_preserved`).

`read_ampersand_iff` says that nothing else tells them apart. A line ends in white space only if its
pipe was cut, so the first difference shows on folded lines, the second on any.
-/

set_option autoImplicit false

namespace HamlTree

open Text

namespace Text

/-- Something visible is in the text, and white space stands at its end. -/
structure TrailsOff (text : List Char) : Prop where
  visible : ∃ c ∈ text, isSpace c = false
  blank : ∃ c, text.getLast? = some c ∧ isSpace c = true

theorem trimStart_ne_nil_iff (text : List Char) :
    trimStart text ≠ [] ↔ ∃ c ∈ text, isSpace c = false := by
  rw [trimStart, Ne, List.dropWhile_eq_nil_iff]
  push Not
  simp

/-- A text cut at its front has white space left at its end if it trails off. -/
theorem trim_eq_trimStart_iff (text : List Char) : trim text = trimStart text ↔ ¬ TrailsOff text := by
  have ends : trim text = trimStart text ↔
      ∀ left : trimStart text ≠ [], ¬ isSpace ((trimStart text).getLast left) = true :=
    List.rdropWhile_eq_self_iff
  -- cutting the front leaves the last character where it is
  have last : ∀ left : trimStart text ≠ [],
      text.getLast? = some ((trimStart text).getLast left) := by
    intro left
    have suffix : trimStart text <:+ text := List.dropWhile_suffix _
    rw [suffix.getLast left, List.getLast?_eq_some_getLast]
  rw [ends]
  constructor
  · rintro stops ⟨visible, c, found, space⟩
    have left := (trimStart_ne_nil_iff text).2 visible
    obtain rfl := Option.some.inj ((last left).symm.trans found)
    exact stops left space
  · intro stops left space
    exact stops ⟨(trimStart_ne_nil_iff text).1 left, _, last left, space⟩

end Text

namespace Expression

variable {sign : Char} {body : List Char}

/-! ## Code -/

theorem output_code (isCode : body.head? ≠ some '=') (preserves : Bool) (feed : Feed) :
    output body preserves feed = code body preserves true feed := by
  unfold output
  split
  · exact absurd rfl isCode
  · rfl

theorem flagged_code (isCode : body.head? ≠ some '=') (escapes : Bool) (feed : Feed) :
    flagged ('=' :: body) escapes feed = code body false escapes feed := by
  cases body with
  | nil => rfl
  | cons first rest =>
      have other : first ≠ '=' := fun same => isCode (congrArg some same)
      simp [flagged, other]

/-- In front of code a `&` makes no difference. -/
theorem read_ampersand_code (signed : sign = '=' ∨ sign = '~') (isCode : body.head? ≠ some '=')
    (feed : Feed) : read ('&' :: sign :: body) feed = read (sign :: body) feed := by
  rcases signed with rfl | rfl
  · show present (flagged ('=' :: body) true feed) = present (output body false feed)
    rw [flagged_code isCode, output_code isCode]
  · show present (code body true true feed) = present (output body true feed)
    rw [output_code isCode]

/-! ## Text -/

/-- Behind `==` the text is cut at both ends, behind `&==` at the front. -/
theorem read_ampersand_words_iff (text : List Char) (feed : Feed) :
    read ('&' :: '=' :: '=' :: text) feed = read ('=' :: '=' :: text) feed ↔ ¬ TrailsOff text := by
  have marked : read ('&' :: '=' :: '=' :: text) feed =
      (.ok (some (words (trimStart text) true)), feed) := rfl
  have bare : read ('=' :: '=' :: text) feed = (.ok (some (words (trim text) true)), feed) := rfl
  rw [← trim_eq_trimStart_iff, marked, bare]
  constructor
  · intro same
    injection same with same
    injection same with same
    injection same with same
    injection same with same
    exact (String.ofList_injective same).symm
  · intro same
    rw [same]

/-- Behind `~=` stands a text, behind `&~=` code that starts with the `=`. -/
theorem read_ampersand_preserved (text : List Char) (feed : Feed) :
    read ('&' :: '~' :: '=' :: text) feed ≠ read ('~' :: '=' :: text) feed := by
  have marked : read ('&' :: '~' :: '=' :: text) feed = present (code ('=' :: text) true true feed) :=
    rfl
  have bare : read ('~' :: '=' :: text) feed = (.ok (some (words (trim text) true)), feed) := rfl
  rw [marked, bare]
  intro same
  exact code_ne_words _ _ _ _ _ (present_eq_ok (congrArg Prod.fst same))

/-! ## What a `&` changes -/

/-- In front of an output sign a `&` changes nothing, neither what is read nor the lines that are
taken, unless the body is `~=` or a text behind `==` that trails off. -/
theorem read_ampersand_iff {text : List Char}
    (signed : text.head? = some '=' ∨ text.head? = some '~') (feed : Feed) :
    read ('&' :: text) feed = read text feed ↔
      ¬ ['~', '='] <+: text ∧ ∀ words, text = '=' :: '=' :: words → ¬ TrailsOff words := by
  cases text with
  | nil => simp at signed
  | cons sign body =>
      have either : sign = '=' ∨ sign = '~' := by simpa using signed
      by_cases isCode : body.head? = some '='
      · obtain ⟨rest, rfl⟩ := List.head?_eq_some_iff.1 isCode
        rcases either with rfl | rfl
        · rw [read_ampersand_words_iff]
          simp
        · have differ := read_ampersand_preserved rest feed
          simp [differ]
      · have same := read_ampersand_code either isCode feed
        refine iff_of_true same ⟨?_, ?_⟩
        · intro starts
          obtain ⟨-, starts⟩ := List.cons_prefix_cons.1 starts
          obtain ⟨rest, rfl⟩ := starts
          exact isCode rfl
        · rintro words whole
          cases whole
          exact absurd rfl isCode

/-- Code that goes on over a folded line, and a text that does not trail off. -/
theorem read_ampersand_iff_folded :
    ("~ f(a,".toList.head? = some '~' ∧
      read "&~ f(a,".toList ⟨none, ["  b |".toList, "  c) |".toList, "%p".toList], 1⟩ =
        read "~ f(a,".toList ⟨none, ["  b |".toList, "  c) |".toList, "%p".toList], 1⟩ ∧
      read "~ f(a,".toList ⟨none, ["  b |".toList, "  c) |".toList, "%p".toList], 1⟩ =
        (.ok (some (.script "f(a,\n  b \nc) " none true true)), ⟨none, ["%p".toList], 3⟩)) ∧
    ("==  a".toList.head? = some '=' ∧
      read "&==  a".toList ⟨none, [], 1⟩ = read "==  a".toList ⟨none, [], 1⟩) := by
  refine ⟨⟨rfl, ?_, rfl⟩, rfl, ?_⟩
  · refine (read_ampersand_iff (.inr rfl) _).2 ⟨by decide, ?_⟩
    intro words whole
    cases whole
  · refine (read_ampersand_iff (.inl rfl) _).2 ⟨by decide, ?_⟩
    intro words whole
    cases whole
    rintro ⟨-, c, found, space⟩
    cases found
    cases space

/-- A text with white space at its end, and a `=` behind `~`. -/
theorem read_ampersand_not_neutral :
    (read "== a ".toList ⟨none, [], 1⟩ = (.ok (some (.text "a" true)), ⟨none, [], 1⟩) ∧
      read "&== a ".toList ⟨none, [], 1⟩ = (.ok (some (.text "a " true)), ⟨none, [], 1⟩)) ∧
    (read "~= x".toList ⟨none, [], 1⟩ = (.ok (some (.text "x" true)), ⟨none, [], 1⟩) ∧
      read "&~= x".toList ⟨none, [], 1⟩ =
        (.ok (some (.script "= x" none true true)), ⟨none, [], 1⟩)) ∧
    read "&== a ".toList ⟨none, [], 1⟩ ≠ read "== a ".toList ⟨none, [], 1⟩ ∧
    read "&~= x".toList ⟨none, [], 1⟩ ≠ read "~= x".toList ⟨none, [], 1⟩ := by
  refine ⟨⟨rfl, rfl⟩, ⟨rfl, rfl⟩, ?_, ?_⟩
  · intro same
    have trailing : TrailsOff " a ".toList := ⟨⟨'a', by decide, rfl⟩, ' ', rfl, rfl⟩
    exact (read_ampersand_words_iff _ _).1 same trailing
  · exact read_ampersand_preserved _ _

end Expression

end HamlTree
