import HamlTree.Proofs.Continuation
import HamlTree.Proofs.LogicalLine

/-!
# Lookahead -- how far readers look

What a reader makes of a feed depends on the lines it takes and on little more. It looks at one line
past those only to see that a run of piped lines is over, and it can tell that no line is left only
by asking for one.

`Feed.Alike feed other count settled` says that two feeds cannot be told apart by a reader that takes
`count` lines from the first: they have these lines in common, a run of piped lines that ends there
in one ends there in the other, and if the first ends there, so does the other, or the reader is
`settled`, that is, has no use for a further line. Readers then do on the second feed what they do on
the first (`Line.read_alike`).

Code is settled unless its last line ends in a comma (`Feed.Settled`), and a group is settled if it
is closed.
-/

set_option autoImplicit false

namespace HamlTree

open Text

namespace Feed

/-! ## Feeds that look alike -/

/-- No reader that takes `count` lines of `feed`, and is settled at its end, can tell the two
apart. -/
structure Alike (feed other : Feed) (count : Nat) (settled : Prop) : Prop where
  fits : count ≤ feed.pending.length
  shared : other.pending.take count = feed.pending.take count
  unpiped : (feed.pending[count]?).any isPiped = false →
    (other.pending[count]?).any isPiped = false
  ends : feed.pending.length = count → other.pending.length = count ∨ settled

@[simp] theorem skip_zero (feed : Feed) : feed.skip 0 = feed := rfl

theorem skip_inj {feed : Feed} {count other : Nat} (same : feed.skip count = feed.skip other) :
    count = other :=
  Nat.add_left_cancel (congrArg lineno same)

theorem eq_zero_of_skip {feed : Feed} {count : Nat} (unmoved : feed = feed.skip count) :
    count = 0 :=
  Nat.add_left_cancel (congrArg lineno unmoved).symm

namespace Alike

variable {feed other : Feed} {count first second : Nat} {settled : Prop}

theorem weaken {looser : Prop} (alike : feed.Alike other count settled)
    (loosens : settled → looser) : feed.Alike other count looser :=
  ⟨alike.fits, alike.shared, alike.unpiped, fun ends => (alike.ends ends).imp_right loosens⟩

/-- Feeds that are alike for some lines are alike for the first few of them. -/
theorem initial (alike : feed.Alike other (first + second) settled) :
    feed.Alike other first settled where
  fits := Nat.le_trans (Nat.le_add_right ..) alike.fits
  shared := by
    have cut := congrArg (List.take first) alike.shared
    simpa [List.take_take] using cut
  unpiped ended := by
    cases second with
    | zero => exact alike.unpiped ended
    | succ second =>
        have same := congrArg (·[first]?) alike.shared
        simp only [List.getElem?_take_of_lt (show first < first + (second + 1) by omega)] at same
        rw [same]
        exact ended
  ends ended := by
    obtain rfl : second = 0 := by
      have := alike.fits
      omega
    exact alike.ends ended

/-- And then for the others. -/
theorem later (alike : feed.Alike other (first + second) settled) :
    (feed.skip first).Alike (other.skip first) second settled where
  fits := by
    have := alike.fits
    simp only [skip, List.length_drop]
    omega
  shared := by
    have cut := congrArg (List.drop first) alike.shared
    simpa [skip, List.take_drop] using cut
  unpiped ended := by
    simp only [skip, List.getElem?_drop] at ended ⊢
    exact alike.unpiped ended
  ends ended := by
    have := alike.fits
    simp only [skip, List.length_drop] at ended ⊢
    rcases alike.ends (by omega) with same | isSettled
    · exact .inl (by omega)
    · exact .inr isSettled

theorem next {line : List Char} (alike : feed.Alike other count settled)
    (taken : feed.next = some (line, feed.skip count)) :
    other.next = some (line, other.skip count) := by
  obtain ⟨tail, same⟩ : ∃ tail, other.pending = feed.pending.take count ++ tail :=
    ⟨other.pending.drop count, by rw [← alike.shared, List.take_append_drop]⟩
  have ended := alike.unpiped
  obtain ⟨physical, rest, pending, ⟨plain, rfl, moved⟩ | ⟨piped, rfl, moved⟩⟩ := next_eq taken
  · obtain rfl := skip_inj moved
    simp [Feed.next, skip, same, pending, plain]
  · obtain rfl := skip_inj moved
    have run : rest.take (rest.takeWhile isPiped).length = rest.takeWhile isPiped :=
      (List.prefix_iff_eq_take.1 (List.takeWhile_prefix _)).symm
    have stops : (feed.pending[1 + (rest.takeWhile isPiped).length]?).any isPiped = false := by
      rw [pending, Nat.add_comm, List.getElem?_cons_succ]
      cases found : rest[(rest.takeWhile isPiped).length]? with
      | none => rfl
      | some next => exact unpiped_behind_run found
    rw [pending, Nat.add_comm, List.take_succ_cons, run, List.cons_append] at same
    -- the run is over in the other feed too
    have unpiped : tail.takeWhile isPiped = [] := by
      have halts := ended stops
      rw [same, Nat.add_comm, List.getElem?_cons_succ, ← List.head?_drop, List.drop_left] at halts
      cases tail with
      | nil => rfl
      | cons next others => simpa using halts
    have whole : (rest.takeWhile isPiped ++ tail).takeWhile isPiped = rest.takeWhile isPiped := by
      rw [List.takeWhile_append_of_pos fun _ member => List.mem_takeWhile_imp member, unpiped,
        List.append_nil]
    have dropped : (rest.takeWhile isPiped ++ tail).dropWhile isPiped = tail := by
      rw [← drop_length_takeWhile, whole, List.drop_left]
    simp [Feed.next, skip, same, piped, whole, dropped, Nat.add_comm 1, Nat.add_assoc]

theorem take {line : List Char} {raw : Bool} (alike : feed.Alike other count settled)
    (taken : feed.take raw = some (line, feed.skip count)) :
    other.take raw = some (line, other.skip count) := by
  cases raw with
  | false => exact alike.next taken
  | true =>
      obtain ⟨⟨rest, pending⟩, moved⟩ := nextRaw_eq taken
      obtain rfl := skip_inj moved
      have shared := alike.shared
      rw [pending] at shared
      cases found : other.pending with
      | nil => simp [found] at shared
      | cons first others =>
          have same : first = line := by simpa [found] using shared
          simp [Feed.take, nextRaw, skip, found, same]

/-- Feeds with the same lines to come, up to one past those that are taken. -/
theorem of_take (fits : count ≤ feed.pending.length)
    (same : other.pending.take (count + 1) = feed.pending.take (count + 1)) :
    feed.Alike other count settled where
  fits := fits
  shared := by
    have cut := congrArg (List.take count) same
    simpa [List.take_take] using cut
  unpiped ended := by
    have next := congrArg (·[count]?) same
    simp only [List.getElem?_take_of_lt (Nat.lt_succ_self count)] at next
    rw [next]
    exact ended
  ends ended := by
    have lengths := congrArg List.length same
    rw [List.length_take, List.length_take] at lengths
    exact .inl (by omega)

theorem hasNext (alike : feed.Alike other count settled) (positive : 0 < count) :
    other.hasNext = true := by
  have lengths := congrArg List.length alike.shared
  have fits := alike.fits
  rw [List.length_take, List.length_take] at lengths
  exact hasNext_eq_true.2 (List.ne_nil_of_length_pos (by omega))

/-- Feeds with the same lines to come. -/
theorem of_pending (same : other.pending = feed.pending) (fits : count ≤ feed.pending.length) :
    feed.Alike other count settled where
  fits := fits
  shared := by rw [same]
  unpiped := by rw [same]; exact id
  ends ended := .inl (by rw [same]; exact ended)

end Alike

/-! ## Texts with no use for a further line -/

/-- The last line to come, or the text itself if there is none, does not end in a comma. -/
def Settled (text : List Char) (feed : Feed) : Prop :=
  (feed.pending.getLast?.getD text).getLast? ≠ some ','

theorem getLast?_of_isContinued {text : List Char} (continued : isContinued text = true) :
    text.getLast? = some ',' := by
  unfold isContinued at continued
  split at continued
  · rename_i before reversed
    rw [← List.head?_reverse, reversed]
    rfl
  · cases continued

theorem getLast?_append_line (text line : List Char) :
    (text ++ '\n' :: line).getLast? = some (line.getLast?.getD '\n') := by
  rw [List.getLast?_append, List.getLast?_cons, Option.some_or]

theorem getLast?_foldPiped_ne {first : List Char} {following : List (List Char)}
    (piped : isPiped first = true) (run : ∀ line ∈ following, isPiped line = true) :
    (foldPiped first following).getLast? ≠ some ',' := by
  rw [foldPiped_eq]
  induction following using List.reverseRecOn with
  | nil =>
      rw [List.flatMap_nil, List.append_nil, (cutPipe_of_isPiped piped).2]
      decide
  | append_singleton following line ih =>
      rw [List.flatMap_append, ← List.append_assoc, List.flatMap_singleton, getLast?_append_line]
      rcases getLast?_piece (run line (by simp)) with gone | blank
      · rw [gone]
        decide
      · rw [blank]
        decide

/-- As long as lines are left, the last one stays the same. -/
theorem getLast?_skip {feed : Feed} {count : Nat} (left : (feed.skip count).pending ≠ []) :
    (feed.skip count).pending.getLast? = feed.pending.getLast? := by
  have short : ¬ feed.pending.length ≤ count := fun long => left (List.drop_eq_nil_of_le long)
  rw [skip, List.getLast?_drop, if_neg short]

namespace Settled

variable {text part line : List Char} {feed after : Feed}

theorem skip (settled : Settled [] feed) (count : Nat) : Settled [] (feed.skip count) := by
  unfold Settled at settled ⊢
  by_cases left : (feed.skip count).pending = []
  · rw [left]
    exact Option.some_ne_none _ ∘ Eq.symm
  · rw [getLast?_skip left]
    exact settled

theorem suffix (settled : Settled text feed) (ends : part <:+ text) : Settled part feed := by
  unfold Settled at settled ⊢
  cases last : feed.pending.getLast? with
  | some line => simpa [last] using settled
  | none =>
      simp only [last, Option.getD_none] at settled ⊢
      obtain ⟨before, rfl⟩ := ends
      rw [List.getLast?_append] at settled
      intro comma
      simp [comma] at settled

theorem cons (settled : Settled text feed) {c : Char} (other : c ≠ ',') :
    Settled (c :: text) feed := by
  unfold Settled at settled ⊢
  cases last : feed.pending.getLast? with
  | some line => simpa [last] using settled
  | none =>
      simp only [last, Option.getD_none] at settled ⊢
      cases found : text.getLast? with
      | none => simpa [List.getLast?_cons, found] using other
      | some c => simpa [List.getLast?_cons, found] using settled

/-- With the next line added, a text is as settled as before. -/
theorem append_line (settled : Settled text feed) (taken : feed.next = some (line, after)) :
    Settled (text ++ '\n' :: line) after := by
  unfold Settled at settled ⊢
  obtain ⟨first, rest, pending, cases⟩ := next_eq taken
  rw [pending, List.getLast?_cons, Option.getD_some] at settled
  have kept : ∀ {count : Nat}, after = feed.skip count → after.pending ≠ [] →
      (after.pending.getLast?.getD (text ++ '\n' :: line)).getLast? ≠ some ',' := by
    rintro count rfl left
    rw [getLast?_skip left, pending, List.getLast?_cons, Option.getD_some]
    exact settled
  by_cases left : after.pending = []
  · rw [left, List.getLast?_nil, Option.getD_none, getLast?_append_line]
    have unended : line.getLast? ≠ some ',' := by
      rcases cases with ⟨-, rfl, rfl⟩ | ⟨piped, rfl, -⟩
      · have gone : rest = [] := by simpa [Feed.skip, pending] using left
        simpa [gone] using settled
      · exact getLast?_foldPiped_ne piped fun _ member => List.mem_takeWhile_imp member
    cases found : line.getLast? with
    | none => decide
    | some c => simpa [found] using unended
  · rcases cases with ⟨-, -, moved⟩ | ⟨-, -, moved⟩
    · exact kept moved left
    · exact kept moved left

/-- The text of a line taken is as settled as the lines before it was taken. -/
theorem taken {source physical : List Char} (settled : Settled [] feed) (position : feed.At source)
    (taken : Taken source feed line after physical) :
    Settled (Indentation.split (line.filter (· != '\n'))).2 after := by
  by_cases left : after.pending = []
  · unfold Settled
    rw [left, List.getLast?_nil, Option.getD_none]
    intro comma
    -- a line that ends in a comma is the last physical line as it stands
    have ends : (line.filter (· != '\n')).getLast? = some ',' := by
      obtain ⟨indent, same⟩ : (Indentation.split (line.filter (· != '\n'))).2 <:+
          line.filter (· != '\n') := List.dropWhile_suffix _
      rw [← same, List.getLast?_append, comma]
      rfl
    obtain ⟨same, single⟩ := taken.whole (by rw [ends]; decide)
    obtain ⟨first, rest, pending⟩ : ∃ first rest, feed.pending = first :: rest :=
      List.exists_cons_of_ne_nil (List.ne_nil_of_length_pos (by have := taken.fits; omega))
    obtain ⟨other, found, trimmed⟩ := position.physical pending
    cases taken.physical_eq.symm.trans found
    have gone : rest = [] := by
      rw [taken.moved, single, Feed.skip, pending] at left
      exact left
    unfold Settled at settled
    rw [pending, gone, ← trimmed, ← same] at settled
    exact settled ends
  · unfold Settled at settled ⊢
    rw [taken.moved] at left ⊢
    rw [getLast?_skip left]
    cases last : feed.pending.getLast? with
    | none =>
        rw [List.getLast?_eq_none_iff] at last
        simp [Feed.skip, last] at left
    | some line => simpa [last] using settled

theorem pulls {final : List Char} (settled : Settled text feed)
    (pulls : Pulls text feed final after) : Settled final after := by
  induction pulls with
  | done => exact settled
  | line asks taken _ ih => exact ih (settled.append_line taken)

end Settled

theorem pull_alike {feed other : Feed} {count : Nat} {text : List Char}
    (alike : feed.Alike other count (Settled text feed))
    (moved : (feed.pull text).2 = feed.skip count) :
    other.pull text = ((feed.pull text).1, other.skip count) := by
  induction known : feed.pending.length using Nat.strongRecOn
    generalizing feed other count text with
  | _ left ih =>
      rw [pull_eq] at moved ⊢
      rw [pull_eq feed]
      by_cases continued : isContinued text = true
      · rw [if_pos continued] at moved ⊢
        cases taken : feed.next with
        | none =>
            rw [taken] at moved
            rw [if_pos continued]
            have gone := next_eq_none.1 taken
            obtain rfl := eq_zero_of_skip moved
            rcases alike.ends (by rw [gone]; rfl) with exhausted | settled
            · rw [next_eq_none.2 (List.eq_nil_of_length_eq_zero exhausted)]
              rfl
            · simp [Settled, gone, getLast?_of_isContinued continued] at settled
        | some result =>
            obtain ⟨line, after⟩ := result
            rw [taken] at moved
            rw [if_pos continued]
            have fewer := next_fewer taken
            obtain ⟨used, -, -, rfl⟩ := next_skip taken
            obtain ⟨more, -, rest⟩ := pullAux_ahead (feed.skip used).pending.length line
              (feed.skip used)
            obtain rfl : used + more = count :=
              skip_inj ((skip_skip ..).symm.trans (rest.symm.trans moved))
            rw [alike.initial.next taken]
            have calm : Settled text feed → Settled line (feed.skip used) := fun settled =>
              (settled.append_line taken).suffix (line_suffix text line)
            dsimp only
            rw [ih _ (known ▸ fewer) (alike.later.weaken calm) rest rfl, skip_skip]
      · rw [if_neg continued] at moved ⊢
        obtain rfl := eq_zero_of_skip moved
        rw [if_neg continued, skip_zero]

theorem pullCode_alike {feed other : Feed} {count : Nat} {text : List Char}
    (alike : feed.Alike other count (Settled text feed))
    (moved : (feed.pullCode text).2 = feed.skip count) :
    other.pullCode text = ((feed.pullCode text).1, other.skip count) := by
  have pulled := pull_alike alike moved
  simp only [pullCode, pulled]

end Feed

/-! ## Readers -/

namespace Reading

variable {α β : Type} {feed other : Feed} {count : Nat} {settled : Prop}

/-- Where nothing is taken the result does not depend on the feed. -/
theorem unmoved {result : Except Fault α} (moved : feed = feed.skip count) :
    (result, other) = (result, other.skip count) := by
  rw [Feed.eq_zero_of_skip moved, Feed.skip_zero]

/-- Read on, unless the reading has failed. -/
def andThen (reading : Reading α) (next : α → Feed → Reading β) : Reading β :=
  match reading with
  | (.error fault, after) => (.error fault, after)
  | (.ok value, after) => next value after

theorem isOk_andThen {reading : Reading α} {next : α → Feed → Reading β}
    (isOk : (andThen reading next).1.isOk = true) : reading.1.isOk = true := by
  rcases reading with ⟨_ | _, _⟩
  · exact isOk
  · rfl

/-- Make something of what was read. -/
def map (change : α → β) (reading : Reading α) : Reading β :=
  (reading.1.map change, reading.2)

theorem isOk_map {change : α → β} {reading : Reading α} :
    (map change reading).1.isOk = reading.1.isOk := by
  rcases reading with ⟨_ | _, _⟩
  · rfl
  · rfl

theorem map_alike {change : α → β} {reading otherReading : Reading α} {after : Feed}
    (same : otherReading = (reading.1, after)) :
    map change otherReading = ((map change reading).1, after) := by
  rw [same]
  rfl

/-- Two readers in a row look no further than each of them does. -/
theorem andThen_alike {first : Feed → Reading α} {next : α → Feed → Reading β}
    (alike : feed.Alike other count settled)
    (moved : (andThen (first feed) next).2 = feed.skip count)
    (firstMoves : feed.Ahead (first feed).2)
    (nextMoves : ∀ value (after : Feed), after.Ahead (next value after).2)
    (firstAlike : ∀ {used}, feed.Alike other used settled → (first feed).2 = feed.skip used →
      first other = ((first feed).1, other.skip used))
    (nextAlike : ∀ {value used more}, first feed = (.ok value, feed.skip used) →
      (feed.skip used).Alike (other.skip used) more settled →
      (next value (feed.skip used)).2 = (feed.skip used).skip more →
      next value (other.skip used) =
        ((next value (feed.skip used)).1, (other.skip used).skip more)) :
    andThen (first other) next = ((andThen (first feed) next).1, other.skip count) := by
  obtain ⟨used, -, usedFirst⟩ := firstMoves
  rcases reading : first feed with ⟨fault | value, after⟩
  · rw [reading] at moved usedFirst
    obtain rfl : after = feed.skip used := usedFirst
    obtain rfl : used = count := Feed.skip_inj moved
    rw [firstAlike alike (congrArg Prod.snd reading), reading]
    rfl
  · rw [reading] at moved usedFirst
    obtain rfl : after = feed.skip used := usedFirst
    obtain ⟨more, -, usedNext⟩ := nextMoves value (feed.skip used)
    obtain rfl : used + more = count :=
      Feed.skip_inj ((Feed.skip_skip ..).symm.trans (usedNext.symm.trans moved))
    rw [firstAlike alike.initial (congrArg Prod.snd reading), reading]
    exact (nextAlike reading alike.later usedNext).trans (by rw [Feed.skip_skip]; rfl)

end Reading

namespace Expression

variable {feed other : Feed} {count : Nat} {text : List Char}

theorem code_alike {preserves escapes : Bool}
    (alike : feed.Alike other count (feed.Settled text))
    (moved : (code text preserves escapes feed).2 = feed.skip count) :
    code text preserves escapes other = ((code text preserves escapes feed).1, other.skip count) := by
  unfold code at moved ⊢
  dsimp only at moved ⊢
  split at moved
  · rename_i gone
    obtain rfl := Feed.eq_zero_of_skip moved
    rw [if_pos gone, if_pos gone, Feed.skip_zero]
  · rename_i some
    have calm : feed.Settled text → feed.Settled (trimStart text) := fun settled =>
      settled.suffix (List.dropWhile_suffix _)
    rw [if_neg some, if_neg some, Feed.pullCode_alike (alike.weaken calm) moved]

theorem output_alike {preserves : Bool} (alike : feed.Alike other count (feed.Settled text))
    (moved : (output text preserves feed).2 = feed.skip count) :
    output text preserves other = ((output text preserves feed).1, other.skip count) := by
  unfold output at moved ⊢
  split at moved
  · exact Reading.unmoved moved
  · exact code_alike alike moved

theorem flagged_alike {escapes : Bool} (alike : feed.Alike other count (feed.Settled text))
    (moved : (flagged text escapes feed).2 = feed.skip count) :
    flagged text escapes other = ((flagged text escapes feed).1, other.skip count) := by
  unfold flagged at moved ⊢
  split at moved
  · exact Reading.unmoved moved
  · exact code_alike (alike.weaken fun settled => settled.suffix (List.suffix_cons ..)) moved
  · exact code_alike (alike.weaken fun settled => settled.suffix (List.suffix_cons ..)) moved
  · exact Reading.unmoved moved

theorem read_alike (alike : feed.Alike other count (feed.Settled text))
    (moved : (read text feed).2 = feed.skip count) :
    read text other = ((read text feed).1, other.skip count) := by
  have present_alike : ∀ {reading otherReading : Reading Content},
      otherReading = (reading.1, other.skip count) →
        present otherReading = ((present reading).1, other.skip count) := by
    rintro reading _ rfl
    rfl
  unfold read at moved ⊢
  split at moved
  · exact present_alike
      (output_alike (alike.weaken fun settled => settled.suffix (List.suffix_cons ..)) moved)
  · exact present_alike
      (output_alike (alike.weaken fun settled => settled.suffix (List.suffix_cons ..)) moved)
  · exact present_alike
      (flagged_alike (alike.weaken fun settled => settled.suffix (List.suffix_cons ..)) moved)
  · exact present_alike
      (flagged_alike (alike.weaken fun settled => settled.suffix (List.suffix_cons ..)) moved)
  · dsimp only at moved ⊢
    split at moved
    · rename_i gone
      rw [if_pos gone, if_pos gone]
      exact Reading.unmoved moved
    · rename_i some
      rw [if_neg some, if_neg some]
      exact Reading.unmoved moved

end Expression

namespace Element

variable {feed other : Feed} {count : Nat} {text : List Char} {pair : Bracket.Pair}

theorem readGroup_alike
    (alike : feed.Alike other count ((readGroup pair text feed).1.isOk = true))
    (moved : (readGroup pair text feed).2 = feed.skip count) :
    readGroup pair text other = ((readGroup pair text feed).1, other.skip count) := by
  induction known : feed.pending.length using Nat.strongRecOn
    generalizing feed other count text with
  | _ left ih =>
      rw [readGroup_eq] at moved alike ⊢
      rw [readGroup_eq pair text feed]
      by_cases closed : (Bracket.scan pair 1 text).isBalanced = true
      · simp only [if_pos closed] at moved ⊢
        exact Reading.unmoved moved
      · simp only [if_neg closed] at moved alike ⊢
        cases taken : feed.next with
        | none =>
            rw [taken] at moved alike
            obtain rfl := Feed.eq_zero_of_skip moved
            rcases alike.ends (by rw [Feed.next_eq_none.1 taken]; rfl) with exhausted | isOk
            · rw [Feed.next_eq_none.2 (List.eq_nil_of_length_eq_zero exhausted)]
              rfl
            · cases isOk
        | some result =>
            obtain ⟨line, after⟩ := result
            rw [taken] at moved alike
            have fewer := Feed.next_fewer taken
            obtain ⟨used, -, -, rfl⟩ := Feed.next_skip taken
            obtain ⟨more, -, rest⟩ := readGroupAux_ahead pair (feed.skip used).pending.length
              (text ++ '\n' :: line) (feed.skip used)
            obtain rfl : used + more = count :=
              Feed.skip_inj ((Feed.skip_skip ..).symm.trans (rest.symm.trans moved))
            rw [alike.initial.next taken]
            dsimp only
            rw [ih _ (known ▸ fewer) alike.later rest rfl, Feed.skip_skip]

theorem readGroupsAux_succ (limit : Nat) (available : List Bracket.Pair) (text : List Char)
    (feed : Feed) :
    readGroupsAux (limit + 1) available text feed =
      match available.find? fun pair => text.head? == some pair.opener with
      | none => (.ok ([], text), feed)
      | some pair =>
        Reading.andThen (readGroup pair text.tail feed) fun taken after =>
          Reading.map (fun others => (taken.1 :: others.1, others.2))
            (readGroupsAux limit (available.erase pair) taken.2 after) := by
  rw [readGroupsAux]
  cases available.find? fun pair => text.head? == some pair.opener with
  | none => rfl
  | some pair =>
      dsimp only
      rcases readGroup pair text.tail feed with ⟨_ | ⟨group, rest⟩, after⟩
      · rfl
      · simp only [Reading.andThen]
        rcases readGroupsAux limit (available.erase pair) rest after with ⟨_ | _, _⟩
        · rfl
        · rfl

theorem readGroupsAux_alike {available : List Bracket.Pair} {limit : Nat}
    (alike : feed.Alike other count ((readGroupsAux limit available text feed).1.isOk = true))
    (moved : (readGroupsAux limit available text feed).2 = feed.skip count) :
    readGroupsAux limit available text other =
      ((readGroupsAux limit available text feed).1, other.skip count) := by
  induction limit generalizing available text feed other count with
  | zero => exact Reading.unmoved moved
  | succ limit ih =>
      rw [readGroupsAux_succ] at moved alike ⊢
      rw [readGroupsAux_succ limit available text feed]
      cases chosen : available.find? fun pair => text.head? == some pair.opener with
      | none =>
          rw [chosen] at moved
          exact Reading.unmoved moved
      | some pair =>
          rw [chosen] at moved alike
          dsimp only at moved alike ⊢
          refine Reading.andThen_alike alike moved (readGroupAux_ahead ..)
            (fun value after => readGroupsAux_ahead ..)
            (fun first used => readGroup_alike (first.weaken Reading.isOk_andThen) used)
            (fun {value used more} reading others moves => Reading.map_alike (ih ?_ moves))
          refine others.weaken fun isOk => ?_
          rw [reading] at isOk
          exact Reading.isOk_map.symm.trans isOk

theorem readAttributes_eq (text : List Char) (feed : Feed) :
    readAttributes text feed =
      Reading.map (fun taken => (joinWith [',', ' '] taken.1, taken.2))
        (readGroupsAux 2 [braces, parens] text feed) := by
  unfold readAttributes
  rcases readGroupsAux 2 [braces, parens] text feed with ⟨_ | _, _⟩
  · rfl
  · rfl

theorem readAttributes_alike
    (alike : feed.Alike other count ((readAttributes text feed).1.isOk = true))
    (moved : (readAttributes text feed).2 = feed.skip count) :
    readAttributes text other = ((readAttributes text feed).1, other.skip count) := by
  rw [readAttributes_eq] at moved alike ⊢
  rw [readAttributes_eq text feed]
  exact Reading.map_alike (readGroupsAux_alike (alike.weaken Reading.isOk_map.symm.trans) moved)

theorem readTail_alike {stamp : Stamp} {tag : Tag}
    (alike : feed.Alike other count (feed.Settled text))
    (moved : (readTail stamp tag text feed).2 = feed.skip count) :
    readTail stamp tag text other = ((readTail stamp tag text feed).1, other.skip count) := by
  unfold readTail at moved ⊢
  dsimp only at moved ⊢
  cases sign : readSelfClosing (readNukes text).2 with
  | error fault =>
      rw [sign] at moved
      exact Reading.unmoved moved
  | ok signless =>
      obtain ⟨selfClosing, rest⟩ := signless
      rw [sign] at moved
      dsimp only at moved ⊢
      have calm : feed.Settled text → feed.Settled rest := fun settled =>
        settled.suffix ((readSelfClosing_suffix sign).trans (readNukes_suffix text))
      rcases reading : Expression.read rest feed with ⟨_ | _, after⟩
      all_goals
        rw [reading] at moved
        rw [Expression.read_alike (alike.weaken calm) (reading ▸ moved), reading]

theorem read_eq (stamp : Stamp) (text : List Char) (feed : Feed) :
    read stamp text feed =
      match readHead text with
      | .error fault => (.error fault, feed)
      | .ok (name, selectors, rest) =>
        match readSelectors selectors with
        | .error fault => (.error fault, feed)
        | .ok (classes, id) =>
          Reading.andThen (readAttributes rest feed) fun taken after =>
            readTail stamp
              { name := String.ofList name, classes := String.ofList classes,
                id := String.ofList id, attributes := String.ofList taken.1 } taken.2 after := by
  unfold read
  rcases readHead text with _ | ⟨name, selectors, rest⟩
  · rfl
  dsimp only
  rcases readSelectors selectors with _ | ⟨classes, id⟩
  · rfl
  dsimp only
  rcases readAttributes rest feed with ⟨_ | _, _⟩
  · rfl
  · rfl

theorem read_alike {stamp : Stamp}
    (alike : feed.Alike other count
      (feed.Settled text ∧ (read stamp ('%' :: text) feed).1.isOk = true))
    (moved : (read stamp ('%' :: text) feed).2 = feed.skip count) :
    read stamp ('%' :: text) other = ((read stamp ('%' :: text) feed).1, other.skip count) := by
  rw [read_eq] at moved alike ⊢
  rw [read_eq stamp ('%' :: text) feed]
  rcases head : readHead ('%' :: text) with _ | ⟨name, selectors, rest⟩
  · rw [head] at moved
    exact Reading.unmoved moved
  rw [head] at moved alike
  dsimp only at moved alike ⊢
  rcases signs : readSelectors selectors with _ | ⟨classes, id⟩
  · rw [signs] at moved
    exact Reading.unmoved moved
  rw [signs] at moved alike
  dsimp only at moved alike ⊢
  refine Reading.andThen_alike alike moved (readAttributes_ahead ..)
    (fun value after => readTail_ahead ..)
    (fun first used => readAttributes_alike (first.weaken fun both => Reading.isOk_andThen both.2) used)
    (fun {value used more} reading others moves => readTail_alike (others.weaken fun both => ?_) moves)
  -- the attributes leave the text as settled as it was
  obtain ⟨final, pulls, tails⟩ := readAttributes_pulls rest feed
  rw [reading] at pulls tails
  have inside : rest <:+ text := (readHead_suffix head).trans (List.dropWhile_suffix _)
  exact ((both.1.suffix inside).pulls pulls).suffix (tails value.1 value.2 rfl)

end Element

namespace Line

variable {feed other : Feed} {count : Nat} {text : List Char}

/-- What a line means depends on the lines that its reading takes, and on what the next one shows of
itself at a glance. -/
theorem read_alike {stamp : Stamp}
    (alike : feed.Alike other count (feed.Settled text ∧ (read stamp text feed).1.isOk = true))
    (moved : (read stamp text feed).2 = feed.skip count) :
    read stamp text other = ((read stamp text feed).1, other.skip count) := by
  have element : ∀ {rest}, feed.Alike other count
        (feed.Settled rest ∧ (yields (Element.read stamp ('%' :: rest) feed)).1.isOk = true) →
      (yields (Element.read stamp ('%' :: rest) feed)).2 = feed.skip count →
      yields (Element.read stamp ('%' :: rest) other) =
        ((yields (Element.read stamp ('%' :: rest) feed)).1, other.skip count) := by
    intro rest alike moved
    refine Reading.map_alike (Element.read_alike (alike.weaken fun both => ⟨both.1, ?_⟩) moved)
    exact Reading.isOk_map.symm.trans both.2
  have expression : (yieldsAny (Expression.read text feed)).2 = feed.skip count →
      yieldsAny (Expression.read text other) =
        ((yieldsAny (Expression.read text feed)).1, other.skip count) := fun moved =>
    Reading.map_alike (Expression.read_alike (alike.weaken And.left) moved)
  unfold read at moved ⊢
  split at moved
  · exact Reading.unmoved moved
  · exact element (alike.weaken fun both => ⟨both.1.suffix (List.suffix_cons ..), both.2⟩) moved
  · exact Reading.unmoved moved
  · exact Reading.unmoved moved
  · exact Reading.unmoved moved
  · rename_i rest _
    have calm : feed.Settled ('-' :: rest) → feed.Settled (rest.dropWhile (· == ' ')) :=
      fun settled => settled.suffix ((List.dropWhile_suffix _).trans (List.suffix_cons ..))
    have same := Feed.pullCode_alike (alike.weaken fun both => calm both.1) moved
    simp only [readSilentScript]
    rw [same]
  · exact expression moved
  · rename_i rest unopened
    have same : read stamp ('#' :: rest) feed =
        yields (Element.read stamp ('%' :: 'd' :: 'i' :: 'v' :: '#' :: rest) feed) := by
      rw [read]
      exact unopened
    rw [same] at alike
    exact element (alike.weaken fun both => ⟨((both.1.cons (by decide)).cons (by decide)).cons
      (by decide), both.2⟩) moved
  · exact element (alike.weaken fun both => ⟨((both.1.cons (by decide)).cons (by decide)).cons
      (by decide), both.2⟩) moved
  · exact Reading.unmoved moved
  · exact expression moved

end Line

end HamlTree
