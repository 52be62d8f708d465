import HamlTree.Proofs.FeedLaws

/-!
# Continuation -- texts that go on over the lines that follow

Two kinds of text go on over further lines: code that ends in a comma, and an element one of whose
attribute groups is still open. Each takes one logical line after the other for as long as it
`Asks` for one; the recursion behind it is bounded by the number of lines left, and `Feed.pull_eq`
and `Element.readGroup_eq` state it without the bound.

`Pulls text feed final after` says that the lines between `feed` and `after` were taken because the
text, together with the lines taken before, asked for each of them; `final` is the text with all of
them. No reader takes a line for any other reason (`Line.read_pulls`).
-/

set_option autoImplicit false

namespace HamlTree

open Text

/-! ## The bound does not show -/

namespace Feed

theorem next_fewer {feed after : Feed} {line : List Char} (taken : feed.next = some (line, after)) :
    after.pending.length < feed.pending.length := by
  obtain ⟨count, positive, fits, rfl⟩ := next_skip taken
  simp only [skip, List.length_drop]
  omega

theorem next_eq_none {feed : Feed} : feed.next = none ↔ feed.pending = [] := by
  constructor
  · intro exhausted
    unfold next at exhausted
    split at exhausted
    · assumption
    · dsimp only at exhausted
      split at exhausted <;> cases exhausted
  · intro gone
    simp [next, gone]

theorem pullAux_fuel {fuel more : Nat} {text : List Char} {feed : Feed}
    (enough : feed.pending.length ≤ fuel) (enoughMore : feed.pending.length ≤ more) :
    pullAux fuel text feed = pullAux more text feed := by
  induction fuel generalizing more text feed with
  | zero =>
      have gone : feed.pending = [] := List.eq_nil_of_length_eq_zero (by omega)
      cases more with
      | zero => rfl
      | succ more => simp [pullAux, next_eq_none.2 gone]
  | succ fuel ih =>
      cases more with
      | zero =>
          have gone : feed.pending = [] := List.eq_nil_of_length_eq_zero (by omega)
          simp [pullAux, next_eq_none.2 gone]
      | succ more =>
          simp only [pullAux]
          split
          · cases taken : feed.next with
            | none => rfl
            | some result =>
                have fewer := next_fewer taken
                dsimp only
                rw [@ih more _ _ (by omega) (by omega)]
          · rfl

/-- Code goes on as long as it is continued and there are lines. -/
theorem pull_eq (feed : Feed) (text : List Char) :
    feed.pull text =
      if isContinued text then
        match feed.next with
        | none => ([], feed)
        | some (line, after) => (line :: (after.pull line).1, (after.pull line).2)
      else ([], feed) := by
  rw [pull, pullAux_fuel (Nat.le_refl _) (Nat.le_succ _), pullAux]
  split
  · cases taken : feed.next with
    | none => rfl
    | some result =>
        have fewer := next_fewer taken
        dsimp only
        rw [pull, pullAux_fuel (Nat.le_of_lt fewer) (Nat.le_refl _)]
  · rfl

end Feed

namespace Element

theorem readGroupAux_fuel {pair : Bracket.Pair} {fuel more : Nat} {text : List Char} {feed : Feed}
    (enough : feed.pending.length ≤ fuel) (enoughMore : feed.pending.length ≤ more) :
    readGroupAux pair fuel text feed = readGroupAux pair more text feed := by
  induction fuel generalizing more text feed with
  | zero =>
      have gone : feed.pending = [] := List.eq_nil_of_length_eq_zero (by omega)
      unfold readGroupAux
      cases more <;> simp [Feed.next_eq_none.2 gone]
  | succ fuel ih =>
      cases more with
      | zero =>
          have gone : feed.pending = [] := List.eq_nil_of_length_eq_zero (by omega)
          unfold readGroupAux
          simp [Feed.next_eq_none.2 gone]
      | succ more =>
          unfold readGroupAux
          dsimp only
          split
          · rfl
          · cases taken : feed.next with
            | none => rfl
            | some result =>
                have fewer := Feed.next_fewer taken
                dsimp only
                rw [@ih more _ _ (by omega) (by omega)]

/-- A group goes on until its closer is found or no line is left. -/
theorem readGroup_eq (pair : Bracket.Pair) (text : List Char) (feed : Feed) :
    readGroup pair text feed =
      if (Bracket.scan pair 1 text).isBalanced then
        (.ok ((Bracket.scan pair 1 text).inside, trimStart (Bracket.scan pair 1 text).rest), feed)
      else
        match feed.next with
        | none => (.error (openGroup pair), feed)
        | some (line, after) => readGroup pair (text ++ '\n' :: line) after := by
  rw [readGroup, readGroupAux_fuel (Nat.le_refl _) (Nat.le_succ _)]
  unfold readGroupAux
  dsimp only
  split
  · rfl
  · cases taken : feed.next with
    | none => rfl
    | some result =>
        have fewer := Feed.next_fewer taken
        exact readGroupAux_fuel (Nat.le_of_lt fewer) (Nat.le_refl _)

end Element

/-! ## What a text asks for -/

/-- The text does not stand for itself: a group that opens in it is not closed, or it ends in a
comma that continues code. -/
inductive Asks (text : List Char) : Prop where
  | bracket {pair : Bracket.Pair} {inner : List Char}
      (known : pair ∈ [Element.braces, Element.parens]) (opened : pair.opener :: inner <:+ text)
      (unclosed : (Bracket.scan pair 1 inner).isBalanced = false)
  | comma {code : List Char} (ends : code <:+ text) (continued : isContinued code = true)

/-- From `feed` to `after` lines are taken that the text asks for, with those taken before added to
it; in the end it is `final`. -/
inductive Pulls : List Char → Feed → List Char → Feed → Prop where
  | done (text : List Char) (feed : Feed) : Pulls text feed text feed
  | line {text line final : List Char} {feed middle after : Feed} (asks : Asks text)
      (taken : feed.next = some (line, middle))
      (rest : Pulls (text ++ '\n' :: line) middle final after) : Pulls text feed final after

theorem suffix_append_line {part whole : List Char} (ends : part <:+ whole) (line : List Char) :
    part ++ '\n' :: line <:+ whole ++ '\n' :: line := by
  obtain ⟨before, rfl⟩ := ends
  exact ⟨before, by simp⟩

theorem line_suffix (text line : List Char) : line <:+ text ++ '\n' :: line :=
  ⟨text ++ ['\n'], by simp⟩

theorem Asks.longer {part whole : List Char} (asks : Asks part) (ends : part <:+ whole) :
    Asks whole := by
  cases asks with
  | bracket known opened unclosed => exact .bracket known (opened.trans ends) unclosed
  | comma codeEnds continued => exact .comma (codeEnds.trans ends) continued

namespace Pulls

theorem trans {text middleText final : List Char} {feed middle after : Feed}
    (first : Pulls text feed middleText middle) (second : Pulls middleText middle final after) :
    Pulls text feed final after := by
  induction first with
  | done => exact second
  | line asks taken _ ih => exact .line asks taken (ih second)

/-- What the end of a text asks for the text asks for. -/
theorem longer {part whole final : List Char} {feed after : Feed}
    (pulls : Pulls part feed final after) (ends : part <:+ whole) :
    ∃ longest, final <:+ longest ∧ Pulls whole feed longest after := by
  induction pulls generalizing whole with
  | done => exact ⟨whole, ends, .done ..⟩
  | @line part line final feed middle after asks taken _ ih =>
      obtain ⟨longest, inside, rest⟩ := ih (suffix_append_line ends line)
      exact ⟨longest, inside, .line (asks.longer ends) taken rest⟩

end Pulls

/-! ## Readers take what their text asks for -/

theorem Feed.pull_pulls (feed : Feed) {code text : List Char} (ends : code <:+ text) :
    ∃ final, Pulls text feed final (feed.pull code).2 := by
  induction known : feed.pending.length using Nat.strongRecOn generalizing feed code text with
  | _ left ih =>
      rw [pull_eq]
      split
      · rename_i continued
        cases taken : feed.next with
        | none => exact ⟨text, .done ..⟩
        | some result =>
            obtain ⟨line, after⟩ := result
            have fewer := next_fewer taken
            obtain ⟨final, rest⟩ := ih _ (known ▸ fewer) after (line_suffix text line) rfl
            exact ⟨final, .line (.comma ends continued) taken rest⟩
      · exact ⟨text, .done ..⟩

namespace Expression

theorem code_pulls (text : List Char) (preserves escapes : Bool) (feed : Feed)
    {whole : List Char} (ends : text <:+ whole) :
    ∃ final, Pulls whole feed final (code text preserves escapes feed).2 := by
  unfold code
  dsimp only
  split
  · exact ⟨whole, .done ..⟩
  · exact feed.pull_pulls ((List.dropWhile_suffix _).trans ends)

theorem read_pulls (text : List Char) (feed : Feed) :
    ∃ final, Pulls text feed final (read text feed).2 := by
  have way := read_reads text feed
  generalize read text feed = reading at way ⊢
  cases way with
  | @code sign rest signed whole => exact code_pulls _ _ _ _ ⟨sign, whole.symm⟩
  | text => exact ⟨text, .done ..⟩
  | nothing => exact ⟨text, .done ..⟩

end Expression

namespace Element

theorem scan_suffix (pair : Bracket.Pair) (depth : Nat) (text : List Char) :
    (Bracket.scan pair depth text).rest <:+ text := by
  induction text generalizing depth with
  | nil => exact List.suffix_refl _
  | cons c rest ih =>
      simp only [Bracket.scan]
      split
      · exact (ih _).trans (List.suffix_cons ..)
      · split
        · split
          · exact List.suffix_cons ..
          · exact (ih _).trans (List.suffix_cons ..)
        · exact (ih _).trans (List.suffix_cons ..)

/-- The lines that an open group asks for; what follows its closer ends the text with them. -/
theorem readGroup_pulls {pair : Bracket.Pair} (known : pair ∈ [braces, parens])
    (inner : List Char) (feed : Feed) {text : List Char} (opened : pair.opener :: inner <:+ text) :
    ∃ final, Pulls text feed final (readGroup pair inner feed).2 ∧
      ∀ group rest, (readGroup pair inner feed).1 = .ok (group, rest) → rest <:+ final := by
  induction left : feed.pending.length using Nat.strongRecOn generalizing feed inner text with
  | _ count ih =>
      rw [readGroup_eq]
      split
      · refine ⟨text, .done .., fun group rest found => ?_⟩
        cases found
        exact ((List.dropWhile_suffix _).trans (scan_suffix ..)).trans
          ((List.suffix_cons ..).trans opened)
      · rename_i unclosed
        have unclosed : (Bracket.scan pair 1 inner).isBalanced = false := by simpa using unclosed
        cases taken : feed.next with
        | none =>
            refine ⟨text, .done .., fun group rest found => ?_⟩
            cases found
        | some result =>
            obtain ⟨line, after⟩ := result
            have fewer := Feed.next_fewer taken
            obtain ⟨final, rest, tail⟩ :=
              ih _ (left ▸ fewer) (inner ++ '\n' :: line) after (suffix_append_line opened line) rfl
            exact ⟨final, .line (.bracket known opened unclosed) taken rest, tail⟩

theorem readGroupsAux_pulls (count : Nat) {available : List Bracket.Pair}
    (known : ∀ pair ∈ available, pair ∈ [braces, parens]) (text : List Char) (feed : Feed) :
    ∃ final, Pulls text feed final (readGroupsAux count available text feed).2 ∧
      ∀ groups rest, (readGroupsAux count available text feed).1 = .ok (groups, rest) →
        rest <:+ final := by
  induction count generalizing available text feed with
  | zero =>
      refine ⟨text, .done .., fun groups rest found => ?_⟩
      cases found
      exact List.suffix_refl _
  | succ count ih =>
      unfold readGroupsAux
      split
      · refine ⟨text, .done .., fun groups rest found => ?_⟩
        cases found
        exact List.suffix_refl _
      · rename_i pair chosen
        have listed := List.mem_of_find?_eq_some chosen
        have heads : text.head? = some pair.opener := by simpa using List.find?_some chosen
        have opened : pair.opener :: text.tail <:+ text := by
          cases text with
          | nil => cases heads
          | cons first rest =>
              cases heads
              exact List.suffix_refl _
        obtain ⟨middle, pulls, ends⟩ := readGroup_pulls (known pair listed) text.tail feed opened
        rcases reading : readGroup pair text.tail feed with ⟨_ | ⟨group, rest⟩, after⟩
        all_goals rw [reading] at pulls ends
        · refine ⟨middle, pulls, fun groups rest found => ?_⟩
          cases found
        · obtain ⟨final, others, tail⟩ := ih
            (fun other member => known other (List.mem_of_mem_erase member)) rest after
          obtain ⟨longest, inside, pulled⟩ := others.longer (ends group rest rfl)
          dsimp only
          rcases more : readGroupsAux count (available.erase pair) rest after with ⟨_ | _, last⟩
          all_goals rw [more] at pulled tail
          · refine ⟨longest, pulls.trans pulled, fun groups rest found => ?_⟩
            cases found
          · refine ⟨longest, pulls.trans pulled, fun groups rest found => ?_⟩
            cases found
            exact (tail _ _ rfl).trans inside

theorem readAttributes_pulls (text : List Char) (feed : Feed) :
    ∃ final, Pulls text feed final (readAttributes text feed).2 ∧
      ∀ attributes rest, (readAttributes text feed).1 = .ok (attributes, rest) →
        rest <:+ final := by
  obtain ⟨final, pulls, ends⟩ :=
    @readGroupsAux_pulls 2 [braces, parens] (fun _ member => member) text feed
  unfold readAttributes
  rcases reading : readGroupsAux 2 [braces, parens] text feed with ⟨_ | ⟨groups, rest⟩, after⟩
  all_goals rw [reading] at pulls ends
  · refine ⟨final, pulls, fun attributes rest found => ?_⟩
    cases found
  · refine ⟨final, pulls, fun attributes rest found => ?_⟩
    cases found
    exact ends groups _ rfl

theorem readNukes_suffix (text : List Char) : (readNukes text).2 <:+ text := by
  unfold readNukes
  split
  · exact ⟨['>', '<'], rfl⟩
  · exact ⟨['<', '>'], rfl⟩
  · exact List.suffix_cons ..
  · exact List.suffix_cons ..
  · exact List.suffix_refl _

theorem readSelfClosing_suffix {text rest : List Char} {closes : Bool}
    (reads : readSelfClosing text = .ok (closes, rest)) : rest <:+ text := by
  unfold readSelfClosing at reads
  split at reads
  · cases reads
    exact List.nil_suffix
  · cases reads
  · cases reads
    exact List.suffix_refl _

theorem readTail_pulls (stamp : Stamp) (tag : Tag) (text : List Char) (feed : Feed) :
    ∃ final, Pulls text feed final (readTail stamp tag text feed).2 := by
  unfold readTail
  dsimp only
  split
  · exact ⟨text, .done ..⟩
  · rename_i selfClosing rest sign
    obtain ⟨final, pulls⟩ := Expression.read_pulls rest feed
    obtain ⟨longest, -, pulled⟩ :=
      pulls.longer ((readSelfClosing_suffix sign).trans (readNukes_suffix text))
    rcases reading : Expression.read rest feed with ⟨_ | _, after⟩
    all_goals rw [reading] at pulled; exact ⟨longest, pulled⟩

/-- What is left of an element's line ends the line, past any name characters. -/
theorem readHead_suffix {text name selectors rest : List Char}
    (reads : readHead ('%' :: text) = .ok (name, selectors, rest)) :
    rest <:+ text.dropWhile isNameChar := by
  simp only [readHead] at reads
  split at reads
  · cases reads
  · cases reads
    exact List.dropWhile_suffix _

theorem read_pulls (stamp : Stamp) (text : List Char) (feed : Feed) {whole : List Char}
    (ends : text.dropWhile isNameChar <:+ whole) :
    ∃ final, Pulls whole feed final (read stamp ('%' :: text) feed).2 := by
  unfold read
  rcases head : readHead ('%' :: text) with _ | ⟨name, selectors, rest⟩
  · exact ⟨whole, .done ..⟩
  dsimp only
  rcases readSelectors selectors with _ | ⟨classes, id⟩
  · exact ⟨whole, .done ..⟩
  obtain ⟨middle, pulls, tails⟩ := readAttributes_pulls rest feed
  obtain ⟨longer, inside, pulled⟩ := pulls.longer ((readHead_suffix head).trans ends)
  dsimp only
  rcases reading : readAttributes rest feed with ⟨_ | ⟨attributes, tail⟩, after⟩
  all_goals rw [reading] at pulled tails
  · exact ⟨longer, pulled⟩
  · obtain ⟨final, more⟩ := readTail_pulls stamp
      { name := String.ofList name, classes := String.ofList classes,
        id := String.ofList id, attributes := String.ofList attributes } tail after
    obtain ⟨longest, -, pulledMore⟩ := more.longer ((tails attributes tail rfl).trans inside)
    exact ⟨longest, pulled.trans pulledMore⟩

end Element

/-- The lines that are taken while a line's text is read are those that the text asks for. -/
theorem Line.read_pulls (stamp : Stamp) (text : List Char) (feed : Feed) :
    ∃ final, Pulls text feed final (read stamp text feed).2 := by
  -- the text of a `div` without a name has its name put in front, which is no part of the line
  have div : ∀ rest : List Char,
      ∃ final, Pulls rest feed final (Element.read stamp ('%' :: 'd' :: 'i' :: 'v' :: rest) feed).2 := by
    intro rest
    refine Element.read_pulls stamp _ feed ?_
    have letters : Element.isNameChar 'd' = true ∧ Element.isNameChar 'i' = true ∧
        Element.isNameChar 'v' = true := ⟨rfl, rfl, rfl⟩
    simp only [List.dropWhile_cons, letters, if_true]
    exact List.dropWhile_suffix _
  unfold read
  split
  · exact ⟨_, .done ..⟩
  · exact Element.read_pulls stamp _ feed ((List.dropWhile_suffix _).trans (List.suffix_cons ..))
  · exact ⟨_, .done ..⟩
  · exact ⟨_, .done ..⟩
  · exact ⟨_, .done ..⟩
  · exact feed.pull_pulls ((List.dropWhile_suffix _).trans (List.suffix_cons ..))
  · exact Expression.read_pulls ..
  · exact div _
  · exact div _
  · exact ⟨_, .done ..⟩
  · exact Expression.read_pulls ..

end HamlTree
