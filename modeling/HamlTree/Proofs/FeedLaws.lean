import HamlTree.Line

/-!
# FeedLaws -- readers only ever move on

Whatever is read from a feed, the feed left behind is the one given with some more lines handed
out: `Feed.Ahead feed after` says that `after` is `feed.skip count` for a `count` of lines that
were there. Each reader of the language keeps to this, from the taking of one logical line up to
`Line.read_ahead`, whether it succeeds or fails.

`Expression.read_reads` says once which ways there are to read an expression; what holds of all of them
is proved for code, for text and for nothing, and not for each sign.

`Line.read_cases` says what the three meanings of a line tell about its text.
-/

set_option autoImplicit false

namespace HamlTree

open Text

namespace Feed

/-- The feed after `count` more lines. -/
def skip (feed : Feed) (count : Nat) : Feed :=
  { feed with pending := feed.pending.drop count, lineno := feed.lineno + count }

/-- `after` is `feed` some lines further on. -/
def Ahead (feed after : Feed) : Prop :=
  ∃ count, count ≤ feed.pending.length ∧ after = feed.skip count

theorem skip_skip (feed : Feed) (first second : Nat) :
    (feed.skip first).skip second = feed.skip (first + second) := by
  simp [skip, List.drop_drop, Nat.add_assoc]

namespace Ahead

theorem refl (feed : Feed) : feed.Ahead feed :=
  ⟨0, Nat.zero_le _, rfl⟩

theorem trans {feed middle after : Feed} (first : feed.Ahead middle) (second : middle.Ahead after) :
    feed.Ahead after := by
  obtain ⟨left, leftFits, rfl⟩ := first
  obtain ⟨right, rightFits, rfl⟩ := second
  refine ⟨left + right, ?_, skip_skip ..⟩
  simp only [skip, List.length_drop] at rightFits
  omega

theorem lineno_le {feed after : Feed} (ahead : feed.Ahead after) :
    feed.lineno ≤ after.lineno := by
  obtain ⟨count, -, rfl⟩ := ahead
  exact Nat.le_add_right ..

theorem pending_length_le {feed after : Feed} (ahead : feed.Ahead after) :
    after.pending.length ≤ feed.pending.length := by
  obtain ⟨count, -, rfl⟩ := ahead
  simp [skip]

end Ahead

/-! ## Taking lines -/

theorem hasNext_eq_true {feed : Feed} : feed.hasNext = true ↔ feed.pending ≠ [] := by
  simp [hasNext]

theorem hasNext_eq_false {feed : Feed} : feed.hasNext = false ↔ feed.pending = [] := by
  simp [hasNext]

theorem nextRaw_eq {feed after : Feed} {line : List Char}
    (taken : feed.nextRaw = some (line, after)) :
    (∃ rest, feed.pending = line :: rest) ∧ after = feed.skip 1 := by
  unfold nextRaw at taken
  split at taken
  · cases taken
  · rename_i first rest pending
    cases taken
    exact ⟨⟨rest, pending⟩, by simp [skip, pending]⟩

theorem drop_length_takeWhile (test : List Char → Bool) (rest : List (List Char)) :
    rest.drop (rest.takeWhile test).length = rest.dropWhile test := by
  have whole := List.takeWhile_append_dropWhile (p := test) (l := rest)
  exact (congrArg (List.drop _) whole.symm).trans List.drop_left

/-- The line behind a run of piped lines is not piped. -/
theorem unpiped_behind_run {rest : List (List Char)} {line : List Char}
    (next : rest[(rest.takeWhile isPiped).length]? = some line) : isPiped line = false := by
  rw [← List.head?_drop, drop_length_takeWhile] at next
  have stops := List.head?_dropWhile_not isPiped rest
  rw [next] at stops
  simpa using stops

/-- A logical line is one physical line, or a fold of a run of piped ones. -/
theorem next_eq {feed after : Feed} {line : List Char} (taken : feed.next = some (line, after)) :
    ∃ first rest, feed.pending = first :: rest ∧
      (isPiped first = false ∧ line = first ∧ after = feed.skip 1 ∨
        isPiped first = true ∧ line = foldPiped first (rest.takeWhile isPiped) ∧
          after = feed.skip (1 + (rest.takeWhile isPiped).length)) := by
  unfold next at taken
  split at taken
  · cases taken
  · rename_i first rest pending
    refine ⟨first, rest, pending, ?_⟩
    split at taken
    · rename_i piped
      cases taken
      refine .inr ⟨piped, rfl, ?_⟩
      simp [skip, pending, Nat.add_comm 1, Nat.add_assoc, drop_length_takeWhile]
    · rename_i plain
      cases taken
      exact .inl ⟨by simpa using plain, rfl, by simp [skip, pending]⟩

theorem next_skip {feed after : Feed} {line : List Char} (taken : feed.next = some (line, after)) :
    ∃ count, 0 < count ∧ count ≤ feed.pending.length ∧ after = feed.skip count := by
  obtain ⟨first, rest, pending, ⟨-, -, moved⟩ | ⟨-, -, moved⟩⟩ := next_eq taken
  · exact ⟨1, by omega, by simp [pending], moved⟩
  · have fits := (List.takeWhile_prefix isPiped (l := rest)).length_le
    exact ⟨_, by omega, by rw [pending, List.length_cons]; omega, moved⟩

theorem next_ahead {feed after : Feed} {line : List Char}
    (taken : feed.next = some (line, after)) : feed.Ahead after := by
  obtain ⟨count, -, fits, moved⟩ := next_skip taken
  exact ⟨count, fits, moved⟩

theorem take_skip {feed after : Feed} {raw : Bool} {line : List Char}
    (taken : feed.take raw = some (line, after)) :
    ∃ count, 0 < count ∧ count ≤ feed.pending.length ∧ after = feed.skip count := by
  unfold take at taken
  split at taken
  · obtain ⟨⟨rest, pending⟩, moved⟩ := nextRaw_eq taken
    exact ⟨1, by omega, by simp [pending], moved⟩
  · exact next_skip taken

theorem pullAux_ahead (fuel : Nat) (text : List Char) (feed : Feed) :
    feed.Ahead (pullAux fuel text feed).2 := by
  induction fuel generalizing text feed with
  | zero => exact .refl feed
  | succ fuel ih =>
      simp only [pullAux]
      split
      · split
        · exact .refl feed
        · rename_i line after taken
          exact (next_ahead taken).trans (ih line after)
      · exact .refl feed

theorem pullCode_ahead (feed : Feed) (code : List Char) : feed.Ahead (feed.pullCode code).2 :=
  pullAux_ahead ..

end Feed

/-! ## Reading expressions and elements -/

namespace Expression

/-- The signs in front of code that is put out. -/
def outputSigns : List (List Char) :=
  [['='], ['~'], ['&', '='], ['&', '~'], ['!', '='], ['!', '~']]

/-- The ways to read an expression: as the code behind a sign, as text, or as nothing. -/
inductive Reads (text : List Char) (feed : Feed) : Reading (Option Content) → Prop where
  | code {sign rest : List Char} (signed : sign ∈ outputSigns) (whole : text = sign ++ rest)
      (preserves escapes : Bool) : Reads text feed (present (code rest preserves escapes feed))
  | text (shown : List Char) (escapes : Bool) :
      Reads text feed (.ok (some (words shown escapes)), feed)
  | nothing (blank : trimStart text = []) : Reads text feed (.ok none, feed)

theorem read_reads (text : List Char) (feed : Feed) : Reads text feed (read text feed) := by
  unfold read
  split
  · unfold output
    split
    · exact .text _ _
    · exact .code (by decide : ['='] ∈ outputSigns) rfl ..
  · unfold output
    split
    · exact .text _ _
    · exact .code (by decide : ['~'] ∈ outputSigns) rfl ..
  · unfold flagged
    split
    · exact .text _ _
    · exact .code (by decide : ['&', '='] ∈ outputSigns) rfl ..
    · exact .code (by decide : ['&', '~'] ∈ outputSigns) rfl ..
    · exact .text _ _
  · unfold flagged
    split
    · exact .text _ _
    · exact .code (by decide : ['!', '='] ∈ outputSigns) rfl ..
    · exact .code (by decide : ['!', '~'] ∈ outputSigns) rfl ..
    · exact .text _ _
  · dsimp only
    split
    · rename_i blank
      exact .nothing (by simpa using blank)
    · exact .text _ _

theorem code_ahead (text : List Char) (preserves escapes : Bool) (feed : Feed) :
    feed.Ahead (code text preserves escapes feed).2 := by
  unfold code
  dsimp only
  split
  · exact .refl feed
  · exact Feed.pullCode_ahead ..

theorem read_ahead (text : List Char) (feed : Feed) : feed.Ahead (read text feed).2 := by
  have way := read_reads text feed
  generalize read text feed = reading at way ⊢
  cases way with
  | code => exact code_ahead ..
  | text => exact .refl feed
  | nothing => exact .refl feed

/-- Text, or code to put out. -/
def Puts (content : Content) : Prop :=
  (∃ words escapes, content = .text words escapes) ∨
    ∃ code keyword escapes preserves, content = .script code keyword escapes preserves

theorem code_eq_ok {text : List Char} {preserves escapes : Bool} {feed : Feed} {content : Content}
    (reads : (code text preserves escapes feed).1 = .ok content) :
    ∃ code keyword, content = .script code keyword escapes preserves := by
  unfold code at reads
  dsimp only at reads
  split at reads
  · cases reads
  · cases reads
    exact ⟨_, _, rfl⟩

theorem present_eq_ok {reading : Reading Content} {content : Content}
    (reads : (present reading).1 = .ok (some content)) : reading.1 = .ok content := by
  rcases reading with ⟨_ | found, _⟩
  · cases reads
  · cases reads
    rfl

theorem present_ne_none (reading : Reading Content) : (present reading).1 ≠ .ok none := by
  rcases reading with ⟨_ | found, _⟩
  · intro reads
    cases reads
  · intro reads
    cases reads

/-- An expression that reads as something reads as text or as code to put out. -/
theorem read_puts {text : List Char} {feed : Feed} {content : Content}
    (reads : (read text feed).1 = .ok (some content)) : Puts content := by
  have way := read_reads text feed
  generalize read text feed = reading at way reads
  cases way with
  | code =>
      obtain ⟨code, keyword, rfl⟩ := code_eq_ok (present_eq_ok reads)
      exact .inr ⟨code, keyword, _, _, rfl⟩
  | text shown escapes =>
      cases reads
      exact .inl ⟨_, escapes, rfl⟩
  | nothing => cases reads

/-- Only white space reads as nothing. -/
theorem read_nothing {text : List Char} {feed : Feed}
    (reads : (read text feed).1 = .ok none) : trimStart text = [] := by
  have way := read_reads text feed
  generalize read text feed = reading at way reads
  cases way with
  | code => exact absurd reads (present_ne_none _)
  | text => cases reads
  | nothing blank => exact blank

end Expression

namespace Element

theorem readGroupAux_ahead (pair : Bracket.Pair) (fuel : Nat) (text : List Char) (feed : Feed) :
    feed.Ahead (readGroupAux pair fuel text feed).2 := by
  induction fuel generalizing text feed with
  | zero =>
      unfold readGroupAux
      dsimp only
      split <;> exact .refl feed
  | succ fuel ih =>
      unfold readGroupAux
      dsimp only
      split
      · exact .refl feed
      · cases taken : feed.next with
        | none => exact .refl feed
        | some next => exact (Feed.next_ahead taken).trans (ih ..)

theorem readGroupsAux_ahead (count : Nat) (available : List Bracket.Pair) (text : List Char)
    (feed : Feed) : feed.Ahead (readGroupsAux count available text feed).2 := by
  induction count generalizing available text feed with
  | zero => exact .refl feed
  | succ count ih =>
      unfold readGroupsAux
      split
      · exact .refl feed
      · rename_i pair _
        have first : feed.Ahead (readGroup pair text.tail feed).2 := readGroupAux_ahead ..
        rcases reading : readGroup pair text.tail feed with ⟨_ | ⟨group, rest⟩, after⟩
        all_goals rw [reading] at first
        · exact first
        · have others := first.trans (ih (available.erase pair) rest after)
          dsimp only
          rcases more : readGroupsAux count (available.erase pair) rest after with ⟨_ | _, last⟩
          all_goals rw [more] at others; exact others

theorem readAttributes_ahead (text : List Char) (feed : Feed) :
    feed.Ahead (readAttributes text feed).2 := by
  have groups := readGroupsAux_ahead 2 [braces, parens] text feed
  unfold readAttributes
  rcases reading : readGroupsAux 2 [braces, parens] text feed with ⟨_ | _, after⟩
  all_goals rw [reading] at groups; exact groups

theorem readTail_ahead (stamp : Stamp) (tag : Tag) (text : List Char) (feed : Feed) :
    feed.Ahead (readTail stamp tag text feed).2 := by
  unfold readTail
  dsimp only
  split
  · exact .refl feed
  · rename_i selfClosing rest _
    have inline := Expression.read_ahead rest feed
    rcases reading : Expression.read rest feed with ⟨_ | _, after⟩
    all_goals rw [reading] at inline; exact inline

theorem read_ahead (stamp : Stamp) (text : List Char) (feed : Feed) :
    feed.Ahead (read stamp text feed).2 := by
  unfold read
  rcases readHead text with _ | ⟨name, selectors, rest⟩
  · exact .refl feed
  dsimp only
  rcases readSelectors selectors with _ | ⟨classes, id⟩
  · exact .refl feed
  have groups := readAttributes_ahead rest feed
  rcases reading : readAttributes rest feed with ⟨_ | ⟨attributes, tail⟩, after⟩
  all_goals rw [reading] at groups
  · exact groups
  · exact groups.trans (readTail_ahead ..)

/-- An element that was read has text or code to put out on its own line, if anything, and nothing if
it closes itself. -/
theorem read_element {stamp : Stamp} {text : List Char} {feed : Feed} {content : Content}
    (reads : (read stamp text feed).1 = .ok content) :
    ∃ tag inline, content = .element tag (Inline.ofNode? (inline.map (Node.mk stamp))) ∧
      (∀ output, inline = some output → Expression.Puts output) ∧
      (tag.selfClosing = true → inline = none) := by
  have tail_element : ∀ {tag rest middle}, (readTail stamp tag rest middle).1 = .ok content →
      ∃ tag inline, content = .element tag (Inline.ofNode? (inline.map (Node.mk stamp))) ∧
        (∀ output, inline = some output → Expression.Puts output) ∧
        (tag.selfClosing = true → inline = none) := by
    intro tag rest middle found
    unfold readTail at found
    dsimp only at found
    split at found
    · cases found
    · rename_i selfClosing signless sign
      split at found
      · cases found
      · rename_i inline after reading
        cases found
        refine ⟨_, inline, rfl, fun output same => ?_, fun closes => ?_⟩
        · rw [same] at reading
          exact Expression.read_puts (congrArg Prod.fst reading)
        · -- the sign of a self-closing element ends the line
          unfold readSelfClosing at sign
          split at sign
          · cases sign
            cases reading
            rfl
          · cases sign
          · cases sign
            cases closes
  unfold read at reads
  split at reads
  · cases reads
  · split at reads
    · cases reads
    · split at reads
      · cases reads
      · exact tail_element reads

end Element

/-! ## Reading a line -/

namespace Line

theorem read_ahead (stamp : Stamp) (text : List Char) (feed : Feed) :
    feed.Ahead (read stamp text feed).2 := by
  unfold read
  split
  · exact .refl feed
  · exact Element.read_ahead ..
  · exact .refl feed
  · exact .refl feed
  · exact .refl feed
  · exact Feed.pullCode_ahead ..
  · exact Expression.read_ahead ..
  · exact Element.read_ahead ..
  · exact Element.read_ahead ..
  · exact .refl feed
  · exact Expression.read_ahead ..

theorem yields_eq_ok {reading : Reading Content} {meaning : Meaning}
    (found : (yields reading).1 = .ok meaning) :
    ∃ content, reading.1 = .ok content ∧ meaning = .node content := by
  rcases reading with ⟨_ | content, after⟩
  · cases found
  · cases found
    exact ⟨content, rfl, rfl⟩

theorem yieldsAny_eq_ok {reading : Reading (Option Content)} {meaning : Meaning}
    (found : (yieldsAny reading).1 = .ok meaning) :
    (reading.1 = .ok none ∧ meaning = .nothing) ∨
      ∃ content, reading.1 = .ok (some content) ∧ meaning = .node content := by
  rcases reading with ⟨_ | _ | content, after⟩
  · cases found
  · cases found
    exact .inl ⟨rfl, rfl⟩
  · cases found
    exact .inr ⟨content, rfl, rfl⟩

/-- The kinds of node that a line can yield. -/
inductive Yields (stamp : Stamp) : Content → Prop where
  | output {content : Content} (puts : Expression.Puts content) : Yields stamp content
  | doctype (declaration : String) : Yields stamp (.doctype declaration)
  | element {tag : Tag} {inline : Option Content}
      (puts : ∀ output, inline = some output → Expression.Puts output)
      (closes : tag.selfClosing = true → inline = none) :
      Yields stamp (.element tag (Inline.ofNode? (inline.map (Node.mk stamp))))
  | htmlComment (text condition : String) : Yields stamp (.htmlComment text condition)
  | authorComment : Yields stamp .authorComment
  | silentScript (code : String) (keyword : Option Keyword) :
      Yields stamp (.silentScript code keyword)

theorem Yields.solid {stamp : Stamp} {content : Content} (yields : Yields stamp content) :
    content.isBlank = false := by
  cases yields with
  | output puts => obtain ⟨_, _, rfl⟩ | ⟨_, _, _, _, rfl⟩ := puts <;> rfl
  | doctype | element | htmlComment | authorComment | silentScript => rfl

theorem readComment_eq {text : List Char} {content : Content}
    (reads : readComment text = .ok content) :
    ∃ comment condition, content = .htmlComment comment condition := by
  unfold readComment at reads
  split at reads
  · dsimp only at reads
    split at reads
    · cases reads
      exact ⟨_, _, rfl⟩
    · cases reads
  · cases reads
    exact ⟨_, _, rfl⟩

/-- What a line can mean: a node; a filter, if the line is its sign and name; or nothing, if there is
only white space. -/
theorem read_cases {stamp : Stamp} {text : List Char} {feed : Feed} {meaning : Meaning}
    (reads : (read stamp text feed).1 = .ok meaning) :
    (∃ content, meaning = .node content ∧ Yields stamp content) ∨
      (∃ name, meaning = .filter (String.ofList name) ∧ text = ':' :: name ∧
        name.all isWord = true) ∨
      (meaning = .nothing ∧ trimStart text = []) := by
  have element : ∀ {source}, (yields (Element.read stamp source feed)).1 = .ok meaning →
      ∃ content, meaning = .node content ∧ Yields stamp content := by
    intro source found
    obtain ⟨content, inner, rfl⟩ := yields_eq_ok found
    obtain ⟨tag, inline, rfl, puts, closes⟩ := Element.read_element inner
    exact ⟨_, rfl, .element puts closes⟩
  have expression : (yieldsAny (Expression.read text feed)).1 = .ok meaning →
      (∃ content, meaning = .node content ∧ Yields stamp content) ∨
        (meaning = .nothing ∧ trimStart text = []) := by
    intro found
    obtain ⟨inner, rfl⟩ | ⟨content, inner, rfl⟩ := yieldsAny_eq_ok found
    · exact .inr ⟨rfl, Expression.read_nothing inner⟩
    · exact .inl ⟨content, rfl, .output (Expression.read_puts inner)⟩
  unfold read at reads
  split at reads
  · cases reads
    exact .inl ⟨_, rfl, .output (.inl ⟨_, _, rfl⟩)⟩
  · exact .inl (element reads)
  · cases reads
    exact .inl ⟨_, rfl, .doctype _⟩
  · rename_i rest
    cases comment : readComment rest with
    | error fault => rw [comment] at reads; cases reads
    | ok content =>
        rw [comment] at reads
        cases reads
        obtain ⟨inner, condition, rfl⟩ := readComment_eq comment
        exact .inl ⟨_, rfl, .htmlComment inner condition⟩
  · cases reads
    exact .inl ⟨_, rfl, .authorComment⟩
  · cases reads
    exact .inl ⟨_, rfl, .silentScript _ _⟩
  · exact (expression reads).imp_right .inr
  · exact .inl (element reads)
  · exact .inl (element reads)
  · rename_i name
    unfold readFilterName at reads
    split at reads
    · rename_i same
      cases same
      split at reads
      · rename_i word
        cases reads
        simp only [Bool.and_eq_true] at word
        exact .inr (.inl ⟨name, rfl, rfl, word.2⟩)
      · cases reads
    · cases reads
  · exact (expression reads).imp_right .inr

theorem read_yields {stamp : Stamp} {text : List Char} {feed : Feed} {content : Content}
    (reads : (read stamp text feed).1 = .ok (.node content)) : Yields stamp content := by
  obtain ⟨_, same, yields⟩ | ⟨_, same, -⟩ | ⟨same, -⟩ := read_cases reads
  · cases same
    exact yields
  · cases same
  · cases same

end Line

end HamlTree
