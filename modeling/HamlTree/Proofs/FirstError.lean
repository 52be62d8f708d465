import HamlTree.SourceContext
import HamlTree.Proofs.Resumption

/-!
# FirstError -- a refused template is refused for the first line that is wrong

A reading breaks off at the first step that fails (`BreaksOff`). The error names the line that the
step began with, whatever it had taken by then (`State.step_error`), so it is a line of the source,
the report around it marks that line and no other (`SourceContext.filter_marked_render`), and the
lines before it make up a template that is accepted. The lines after those that the step took have no
part in the error, except that the next one shows where a run of piped lines is over.
-/

set_option autoImplicit false

namespace HamlTree

open Text

/-! ## The report around a line -/

namespace SourceContext

/-- A row as it is shown, without its line feed. -/
def Row.shown (row : Row) : List Char :=
  (if row.marked then ['>', '>'] else [' ', ' ']) ++ ' ' :: paddedNumber row.number ++
    ' ' :: '|' :: ' ' :: row.text

/-- The row is shown with the mark in front. -/
def isMarked (shown : List Char) : Bool :=
  ['>', '>'].isPrefixOf shown

theorem isMarked_shown (row : Row) : isMarked row.shown = row.marked := by
  rcases row with ⟨_ | _, number, text⟩
  · rfl
  · rfl

theorem newline_not_mem_paddedNumber (n : Nat) : '\n' ∉ paddedNumber n := by
  rw [paddedNumber, List.mem_append]
  rintro (padding | digit)
  · cases List.eq_of_mem_replicate padding
  · rw [Nat.toList_repr] at digit
    have := Nat.isDigit_of_mem_toDigits (by decide) (by decide) digit
    cases this

theorem render_eq (source : List Char) (lineno : Nat) :
    render source lineno = unlines ((window source lineno).map Row.shown) := by
  rw [render, unlines, List.flatMap_map]
  rfl

/-- The rows of a report do not break. -/
theorem newline_not_mem_shown {source : List Char} {lineno : Nat} {row : Row}
    (member : row ∈ window source lineno) : '\n' ∉ row.shown := by
  have stored : row.text ∈ lines source := by
    obtain ⟨⟨text, index⟩, listed, rfl⟩ := List.mem_map.1 member
    exact List.fst_mem_of_mem_zipIdx (List.mem_of_mem_take (List.mem_of_mem_drop listed))
  have unbroken : '\n' ∉ row.text := fun broken => (mem_source_of_mem_lines stored _ broken).2 rfl
  have number := newline_not_mem_paddedNumber row.number
  rw [Row.shown]
  split <;> simp [unbroken, number]

/-- Of the lines around line `lineno` the report marks that one. -/
theorem filter_marked_window {source physical : List Char} {lineno : Nat} (positive : 0 < lineno)
    (found : physicalLine? source lineno = some physical) :
    (window source lineno).filter Row.marked = [⟨true, lineno, physical⟩] := by
  obtain ⟨centre, rfl⟩ : ∃ centre, lineno = centre + 1 := ⟨lineno - 1, by omega⟩
  obtain ⟨stored, same⟩ := List.getElem?_eq_some_iff.1 found
  have stored : centre < (lines source).length := stored
  -- the numbered lines, with those before the line and those after it
  have split : (lines source).zipIdx = ((lines source).take centre).zipIdx ++
      (physical, centre) :: ((lines source).drop (centre + 1)).zipIdx (centre + 1) := by
    conv_lhs => rw [← List.take_append_drop centre (lines source)]
    rw [List.zipIdx_append, List.drop_eq_getElem_cons stored, List.zipIdx_cons,
      List.length_take, Nat.min_eq_left (Nat.le_of_lt stored), Nat.zero_add]
    congr
  have length : ((lines source).take centre).zipIdx.length = centre := by
    rw [List.length_zipIdx, List.length_take, Nat.min_eq_left (Nat.le_of_lt stored)]
  have shown : window source (centre + 1) =
      ((((lines source).take centre).zipIdx.drop (centre - 2)) ++ (physical, centre) ::
        (((lines source).drop (centre + 1)).zipIdx (centre + 1)).take 2).map
          fun numbered => ⟨numbered.2 == centre, numbered.2 + 1, numbered.1⟩ := by
    rw [window, split, Nat.add_sub_cancel, List.take_append, length, Nat.add_sub_cancel_left,
      List.take_of_length_le (by omega), List.drop_append_of_le_length (by omega)]
    rfl
  have earlier : ∀ numbered ∈ ((lines source).take centre).zipIdx.drop (centre - 2),
      ¬ (numbered.2 == centre) = true := by
    intro numbered listed
    have := List.snd_lt_of_mem_zipIdx (List.mem_of_mem_drop listed)
    rw [List.length_take] at this
    simp only [beq_iff_eq]
    omega
  have later : ∀ numbered ∈ (((lines source).drop (centre + 1)).zipIdx (centre + 1)).take 2,
      ¬ (numbered.2 == centre) = true := by
    intro numbered listed
    have := List.le_snd_of_mem_zipIdx (List.mem_of_mem_take listed)
    simp only [beq_iff_eq]
    omega
  have marks : (Row.marked ∘ fun numbered : List Char × Nat =>
      ⟨numbered.2 == centre, numbered.2 + 1, numbered.1⟩) =
      fun numbered => numbered.2 == centre := rfl
  rw [shown, List.filter_map, marks, List.filter_append,
    List.filter_cons_of_pos (by simp), List.filter_eq_nil_iff.2 earlier,
    List.filter_eq_nil_iff.2 later]
  simp

theorem filter_marked_render {source physical : List Char} {lineno : Nat} (positive : 0 < lineno)
    (found : physicalLine? source lineno = some physical) :
    (cutAt '\n' (render source lineno)).filter isMarked =
      ['>' :: '>' :: ' ' :: paddedNumber lineno ++ ' ' :: '|' :: ' ' :: physical] := by
  have unbroken : ∀ line ∈ (window source lineno).map Row.shown, '\n' ∉ line := by
    intro line member
    obtain ⟨row, listed, rfl⟩ := List.mem_map.1 member
    exact newline_not_mem_shown listed
  have marks : isMarked ∘ Row.shown = Row.marked := funext isMarked_shown
  rw [render_eq, cutAt_unlines unbroken, List.filter_append, List.filter_map, marks,
    filter_marked_window positive found]
  rfl

end SourceContext

/-! ## Where a reading breaks off -/

namespace Template

namespace State

/-- A step that fails blames the line that it began with. -/
theorem step_error {source : List Char} {state : State} {error : SyntaxError}
    (placed : state.Placed source) (more : state.feed.hasNext = true)
    (fails : state.step = .error error) :
    error.lineno = state.feed.lineno + 1 ∧ error.filename = none := by
  obtain ⟨line, ready, opened⟩ := exists_opened more
  obtain ⟨physical, taken⟩ := placed.position.taken_take (opened_feed opened)
  have number : (ready.started line).lineno = state.feed.lineno + 1 := by
    have := taken.lineno_eq
    simp only [started]
    omega
  rw [step_eq, opened] at fails
  dsimp only at fails
  split at fails
  · cases fails
  rw [readLogical_eq] at fails
  split at fails
  · cases fails
    exact ⟨number, rfl⟩
  split at fails
  · cases fails
    exact ⟨number, rfl⟩
  · cases fails

/-- A step takes a line, even if it fails. -/
theorem feedAfter_skip {state : State} (more : state.feed.hasNext = true) :
    ∃ count, 0 < count ∧ count ≤ state.feed.pending.length ∧
      state.feedAfter = state.feed.skip count := by
  obtain ⟨line, ready, opened⟩ := exists_opened more
  obtain ⟨used, positive, fits, moved⟩ := Feed.take_skip (opened_feed opened)
  rw [feedAfter, opened]
  dsimp only
  split
  · exact ⟨used, positive, fits, moved⟩
  · obtain ⟨rest, restFits, restMoved⟩ := lineFeed_ahead ready line
    rw [moved, Feed.skip, List.length_drop] at restFits
    exact ⟨used + rest, by omega, by omega, by rw [restMoved, moved, Feed.skip_skip]⟩

end State

/-- The reading of `source` breaks off with `error`, when the first `consumed` lines have been
taken. -/
def BreaksOff (source : List Char) (filename : Option String) (error : SyntaxError)
    (consumed : Nat) : Prop :=
  ∃ state cause, Reached source filename state ∧ state.feed.hasNext = true ∧
    state.step = .error cause ∧ error = cause.withFilename filename ∧
    consumed = state.feedAfter.lineno

theorem exists_breaksOff {source : List Char} {filename : Option String} {error : SyntaxError}
    (rejected : parse source filename = .error error) :
    ∃ consumed, BreaksOff source filename error consumed := by
  obtain ⟨state, cause, reached, more, fails, same⟩ := parse_error_cases rejected
  exact ⟨_, state, cause, reached, more, fails, same, rfl⟩

namespace BreaksOff

variable {source other : List Char} {filename : Option String} {error : SyntaxError}
  {consumed : Nat}

/-- The line blamed is a line of the source, among those taken. -/
theorem lineno_le (breaks : BreaksOff source filename error consumed) :
    0 < error.lineno ∧ error.lineno ≤ consumed ∧ consumed ≤ (lines source).length := by
  obtain ⟨state, cause, reached, more, fails, rfl, rfl⟩ := breaks
  have number : (cause.withFilename filename).lineno = state.feed.lineno + 1 :=
    (State.step_error reached.placed more fails).1
  obtain ⟨count, positive, fits, moved⟩ := State.feedAfter_skip more
  rw [reached.placed.position, List.length_drop, List.length_map] at fits
  rw [number, moved, Feed.skip]
  dsimp only
  omega

/-- The lines before the one blamed are accepted. -/
theorem accepts (breaks : BreaksOff source filename error consumed) :
    ∃ arena, parse (unlines ((lines source).take (error.lineno - 1))) filename = .ok arena := by
  obtain ⟨state, cause, reached, more, fails, rfl, rfl⟩ := breaks
  have number : (cause.withFilename filename).lineno = state.feed.lineno + 1 :=
    (State.step_error reached.placed more fails).1
  rw [number, Nat.add_sub_cancel]
  have within := reached.feed_eq.2
  have pending : (Feed.ofSource filename
      (unlines ((lines source).take state.feed.lineno))).pending =
        (Feed.ofSource filename source).pending.take state.feed.lineno := by
    rw [Feed.ofSource, map_trimEnd_lines_unlines, List.map_take]
    · rfl
    · intro line member broken
      exact (mem_source_of_mem_lines (List.mem_of_mem_take member) _ broken).2 rfl
  have length : (Feed.ofSource filename source).pending.length = (lines source).length :=
    List.length_map ..
  have alike : (Feed.ofSource filename source).Alike
      (Feed.ofSource filename (unlines ((lines source).take state.feed.lineno)))
      state.feed.lineno ((Feed.ofSource filename source).Settled []) := by
    refine ⟨length ▸ within, ?_, fun _ => ?_, fun _ => .inl ?_⟩
    · rw [pending, List.take_take, Nat.min_self]
    · rw [pending, List.getElem?_take_eq_none (Nat.le_refl _)]
      rfl
    · rw [pending, List.length_take, length, Nat.min_eq_left within]
  obtain ⟨whole, wholeReached, -, wholeFeed⟩ := reached.resumes alike (Nat.le_refl _)
  refine ⟨_, parse_of_exhausted wholeReached ?_⟩
  rw [Feed.hasNext_eq_false, wholeFeed, Feed.skip, pending]
  exact List.drop_eq_nil_of_le (List.length_take_le ..)

/-- A source with the same lines up to one past those taken is refused for the same reason. -/
theorem rejects (breaks : BreaksOff source filename error consumed)
    (same : (lines other).take (consumed + 1) = (lines source).take (consumed + 1)) :
    parse other filename = .error error := by
  have bounds := breaks.lineno_le
  obtain ⟨state, cause, reached, more, fails, rfl, rfl⟩ := breaks
  obtain ⟨count, positive, fits, moved⟩ := State.feedAfter_skip more
  have consumed : state.feedAfter.lineno = state.feed.lineno + count := by rw [moved]; rfl
  rw [consumed] at same bounds
  -- the next line is the same too, if there is one
  have trimmed : (Feed.ofSource filename other).pending.take (state.feed.lineno + count + 1) =
      (Feed.ofSource filename source).pending.take (state.feed.lineno + count + 1) := by
    simp only [Feed.ofSource, ← List.map_take, same]
  have alike : (Feed.ofSource filename source).Alike (Feed.ofSource filename other)
      (state.feed.lineno + count) False :=
    .of_take (by rw [Feed.ofSource, List.length_map]; exact bounds.2.2) trimmed
  obtain ⟨whole, wholeReached, resumes, wholeFeed⟩ :=
    reached.resumes (alike.weaken False.elim) (Nat.le_add_right ..)
  have later := alike.later
  rw [← reached.feed_eq.1, ← wholeFeed] at later
  have together := resumes.step (.inl rfl) reached.placed reached.aligned reached.dated more moved
    (later.weaken False.elim)
  rw [fails] at together
  exact parse_of_error wholeReached (later.hasNext positive) together.of_error

end BreaksOff

/-- The error of a refused template names a line of the source, the report around it marks this line
and no other, the lines before it are accepted, and what comes after the lines that were taken and one
more has no influence on it. -/
theorem parse_reports_first_error {source : List Char} {filename : Option String}
    {error : SyntaxError} (rejected : parse source filename = .error error) :
    (1 ≤ error.lineno ∧ error.lineno ≤ (lines source).length) ∧
      (∃ physical, physicalLine? source error.lineno = some physical ∧
        (cutAt '\n' (SourceContext.render source error.lineno)).filter SourceContext.isMarked =
          ['>' :: '>' :: ' ' :: SourceContext.paddedNumber error.lineno ++
            ' ' :: '|' :: ' ' :: physical]) ∧
      (∃ arena, parse (unlines ((lines source).take (error.lineno - 1))) filename = .ok arena) ∧
      ∃ consumed, BreaksOff source filename error consumed ∧ error.lineno ≤ consumed ∧
        ∀ other, (lines other).take (consumed + 1) = (lines source).take (consumed + 1) →
          parse other filename = .error error := by
  obtain ⟨consumed, breaks⟩ := exists_breaksOff rejected
  obtain ⟨positive, taken, within⟩ := breaks.lineno_le
  have stored : error.lineno - 1 < (lines source).length := by omega
  have found : physicalLine? source error.lineno = some (lines source)[error.lineno - 1] :=
    List.getElem?_eq_getElem stored
  exact ⟨⟨positive, by omega⟩, ⟨_, found, SourceContext.filter_marked_render positive found⟩,
    breaks.accepts, consumed, breaks, taken, fun other => breaks.rejects⟩

/-- An element that closes itself and has content, both behind a group that goes on over a line. -/
theorem parse_reports_first_error_behind_group :
    ∃ error, parse "%p\n%a(b\n  c)/ d\ne\nf".toList = .error error ∧ error.lineno = 2 ∧
      error.message = "Self-closing tags can't have content." ∧
      (cutAt '\n' (SourceContext.render "%p\n%a(b\n  c)/ d\ne\nf".toList 2)).filter
          SourceContext.isMarked = [">>   2 | %a(b".toList] ∧
      (∃ arena, parse "%p\n".toList = .ok arena) ∧
      ∃ consumed, BreaksOff "%p\n%a(b\n  c)/ d\ne\nf".toList none error consumed ∧ 2 ≤ consumed ∧
        ∀ other, (lines other).take (consumed + 1) =
            (lines "%p\n%a(b\n  c)/ d\ne\nf".toList).take (consumed + 1) →
          parse other = .error error := by
  have fails : parse "%p\n%a(b\n  c)/ d\ne\nf".toList = .error ⟨.selfClosingContent, 2, none⟩ := by
    decide +kernel
  obtain ⟨-, ⟨physical, found, marked⟩, before, after⟩ := parse_reports_first_error fails
  have shown : physicalLine? "%p\n%a(b\n  c)/ d\ne\nf".toList 2 = some "%a(b".toList := by
    decide +kernel
  cases shown.symm.trans found
  exact ⟨_, fails, rfl, rfl, marked, before, after⟩

end Template

end HamlTree
