import HamlTree.Proofs.CommaContinuation
import HamlTree.Proofs.LogicalLine

/-!
# FeedCalls -- a feed under any sequence of calls

Whoever owns a feed may ask it for raw lines, for logical lines and for the lines that continue some
code, in any order. `Feed.calls` is such a sequence, with the lines handed out for each `Call`.

Each call is answered from the physical lines directly behind those of the call before
(`calls_hand_out_lines`). `Answers physical start call lines last` says what a call gives that is made
behind `start` lines, and that `last` is the number of the last line it uses; `InTurn` lets each call
start where the one before has ended, so that nothing is left out and nothing is used twice.

A raw line is one physical line. A logical line is one as well, or the longest run of piped lines from
there on. The run can be read off the result, which has one piece between its line feeds for each line
of the run: that is how the line numbers of what follows stay right. Apart from its line feeds a fold
ends in a blank, so it never asks for a further line by a comma at its end.
-/

set_option autoImplicit false

namespace HamlTree

open Text

namespace Text

theorem cutAt_of_not_mem {line : List Char} (unbroken : '\n' ∉ line) : cutAt '\n' line = [line] := by
  induction line with
  | nil => rfl
  | cons c line ih =>
      have notFeed : c ≠ '\n' := fun same => unbroken (same ▸ List.mem_cons_self)
      rw [cutAt, if_neg notFeed, ih fun later => unbroken (List.mem_cons_of_mem _ later), consLine]

/-- Lines that are joined are found again between the line feeds. -/
theorem cutAt_joinLines {first : List Char} {others : List (List Char)}
    (unbroken : ∀ line ∈ first :: others, '\n' ∉ line) :
    cutAt '\n' (joinLines (first :: others)) = first :: others := by
  induction others generalizing first with
  | nil => exact cutAt_of_not_mem (unbroken first List.mem_cons_self)
  | cons second others ih =>
      have joined : joinLines (first :: second :: others) =
          first ++ '\n' :: joinLines (second :: others) := by
        simp [joinLines, joinWith]
      rw [joined, cutAt_append_line (unbroken first List.mem_cons_self),
        ih fun line member => unbroken line (List.mem_cons_of_mem _ member)]

/-- A fold has one piece for each of its lines. -/
theorem cutAt_foldPiped {first : List Char} {following : List (List Char)}
    (piped : ∀ line ∈ first :: following, isPiped line = true)
    (unbroken : ∀ line ∈ first :: following, '\n' ∉ line) :
    cutAt '\n' (foldPiped first following) =
      cutPipe first :: following.map fun line => trimStart (cutPipe line) := by
  rw [foldPiped, cutAt_joinLines]
  intro piece member found
  rcases List.mem_cons.1 member with rfl | later
  · exact unbroken first List.mem_cons_self
      (mem_of_mem_cutPipe (piped first List.mem_cons_self) found)
  · obtain ⟨line, listed, rfl⟩ := List.mem_map.1 later
    have member := List.mem_cons_of_mem first listed
    exact unbroken line member (mem_of_mem_piece (piped line member) found)

end Text

namespace Feed

/-! ## What calls are to give -/

/-- What the owner of a feed can ask of it. -/
inductive Call where
  /-- One line, raw or logical. -/
  | line (raw : Bool)
  /-- The lines that continue this text. -/
  | continuation (text : List Char)
deriving DecidableEq, Repr

/-- The lines handed out for a call and the feed then left. Where one line is asked for, there is none
if no line is left. -/
def call (feed : Feed) : Call → List (List Char) × Feed
  | .line raw =>
    match feed.take raw with
    | none => ([], feed)
    | some (line, after) => ([line], after)
  | .continuation text => feed.pull text

/-- The lines handed out for each of some calls, in order, and the feed left behind them. -/
def calls (feed : Feed) : List Call → List (List (List Char)) × Feed
  | [] => ([], feed)
  | first :: rest =>
    let (lines, middle) := feed.call first
    let (more, after) := middle.calls rest
    (lines :: more, after)

/-- The logical line behind `start` lines, and the number of the last line it uses. It is one line that
has no pipe, or it folds the longest run of piped lines from there on: it has one piece between its line
feeds for each line of the run, which is the line without its pipe and, but for the first, without
white space at its front. Apart from the line feeds a fold ends in a blank. -/
inductive Logical (physical : List (List Char)) (start : Nat) : List Char → Nat → Prop where
  | plain {line : List Char} (listed : physical[start]? = some line)
      (unpiped : isPiped line = false) : Logical physical start line (start + 1)
  | folded {first : List Char} {following : List (List Char)} {whole : List Char} {last : Nat}
      (run : physical.extract start last = first :: following)
      (size : last = start + (first :: following).length)
      (piped : ∀ line ∈ first :: following, isPiped line = true)
      (longest : ∀ line, physical[last]? = some line → isPiped line = false)
      (pieces : cutAt '\n' whole =
        cutPipe first :: following.map fun line => trimStart (cutPipe line))
      (blank : (whole.filter (· != '\n')).getLast? = some ' ') : Logical physical start whole last

/-- The logical lines behind `start` lines, each starting where the one before has ended. -/
inductive Logicals (physical : List (List Char)) : Nat → List (List Char) → Nat → Prop where
  | done (start : Nat) : Logicals physical start [] start
  | line {start middle last : Nat} {line : List Char} {more : List (List Char)}
      (first : Logical physical start line middle) (behind : Logicals physical middle more last) :
      Logicals physical start (line :: more) last

/-- What a call gives that is made behind `start` lines, and the number of the last line it uses. -/
inductive Answers (physical : List (List Char)) (start : Nat) : Call → List (List Char) → Nat → Prop
    where
  | exhausted (raw : Bool) (spent : physical.length ≤ start) :
      Answers physical start (.line raw) [] start
  | raw {line : List Char} (listed : physical[start]? = some line) :
      Answers physical start (.line true) [line] (start + 1)
  | logical {line : List Char} {last : Nat} (taken : Logical physical start line last) :
      Answers physical start (.line false) [line] last
  | continuation {text : List Char} {lines : List (List Char)} {last : Nat}
      (taken : Logicals physical start lines last)
      (asks : ∀ line ∈ (text :: lines).dropLast, isContinued line = true)
      (ends : isContinued ((text :: lines).getLast (List.cons_ne_nil text lines)) = false ∨
        physical.length ≤ last) :
      Answers physical start (.continuation text) lines last

/-- Calls answered in turn, each from the lines behind those of the one before. -/
inductive InTurn (physical : List (List Char)) : Nat → List Call → List (List (List Char)) → Nat → Prop
    where
  | done (start : Nat) : InTurn physical start [] [] start
  | call {start middle last : Nat} {first : Call} {rest : List Call} {lines : List (List Char)}
      {more : List (List (List Char))} (answers : Answers physical start first lines middle)
      (behind : InTurn physical middle rest more last) :
      InTurn physical start (first :: rest) (lines :: more) last

/-! ## The end of the feed -/

/-- Only from an exhausted feed no line is taken. -/
theorem take_eq_none {feed : Feed} {raw : Bool} : feed.take raw = none ↔ feed.hasNext = false := by
  rw [hasNext_eq_false]
  cases raw with
  | false => exact next_eq_none
  | true =>
      show feed.nextRaw = none ↔ _
      unfold nextRaw
      cases feed.pending with
      | nil => simp
      | cons first rest => simp

theorem call_exhausted {feed : Feed} (exhausted : feed.hasNext = false) (next : Call) :
    feed.call next = ([], feed) := by
  cases next with
  | line raw => rw [call, take_eq_none.2 exhausted]
  | continuation text =>
      rw [call, pull_eq, next_eq_none.2 (hasNext_eq_false.1 exhausted)]
      exact ite_self _

/-! ## Each call moves on -/

theorem call_ahead (feed : Feed) (next : Call) : feed.Ahead (feed.call next).2 := by
  cases next with
  | line raw =>
      cases taken : feed.take raw with
      | none =>
          simp only [call, taken]
          exact .refl feed
      | some result =>
          obtain ⟨count, -, fits, moved⟩ := take_skip taken
          simp only [call, taken]
          exact ⟨count, fits, moved⟩
  | continuation text => exact pullAux_ahead ..

theorem calls_ahead (feed : Feed) (sequence : List Call) : feed.Ahead (feed.calls sequence).2 := by
  induction sequence generalizing feed with
  | nil => exact .refl feed
  | cons first rest ih => exact (call_ahead feed first).trans (ih _)

/-! ## Each call is answered from the lines that follow -/

namespace At

variable {source : List Char} {feed after : Feed}

theorem length_le_lineno (position : feed.At source) :
    ((lines source).map trimEnd).length ≤ feed.lineno ↔ feed.pending = [] := by
  rw [position, List.drop_eq_nil_iff]

/-- A logical line is one physical line or folds a run of piped ones. -/
theorem logical {line : List Char} (position : feed.At source)
    (taken : feed.next = some (line, after)) :
    Logical ((lines source).map trimEnd) feed.lineno line after.lineno := by
  obtain ⟨first, rest, pending, ⟨unpiped, rfl, rfl⟩ | ⟨piped, rfl, rfl⟩⟩ := next_eq taken
  · exact .plain (position.listed pending) unpiped
  · have initial : rest.takeWhile isPiped <+: rest := List.takeWhile_prefix _
    have run : ∀ line ∈ rest.takeWhile isPiped, isPiped line = true :=
      fun _ member => List.mem_takeWhile_imp member
    have unbroken : ∀ line ∈ first :: rest.takeWhile isPiped, '\n' ∉ line :=
      fun line member => position.unbroken_of_mem (mem_of_mem_run pending member)
    have together : ∀ line ∈ first :: rest.takeWhile isPiped, isPiped line = true :=
      List.forall_mem_cons.2 ⟨piped, run⟩
    refine .folded ?_ ?_ together ?_ (cutAt_foldPiped together unbroken) ?_
    · rw [skip, List.extract_eq_take_drop, ← position, pending, Nat.add_sub_cancel_left,
        Nat.add_comm 1, List.take_succ_cons, ← List.prefix_iff_eq_take.1 initial]
    · rw [skip, List.length_cons, Nat.add_comm 1]
    · intro line next
      rw [skip, position.getElem?_lineno, pending, Nat.add_comm 1, List.getElem?_cons_succ] at next
      exact unpiped_behind_run next
    · rw [filter_foldPiped piped run unbroken]
      exact getLast?_fold piped run

theorem logicals {lines : List (List Char)} (position : feed.At source)
    (hands : feed.Hands lines after) :
    Logicals ((Text.lines source).map trimEnd) feed.lineno lines after.lineno := by
  induction hands with
  | done feed => exact .done _
  | line taken _ ih => exact .line (position.logical taken) (ih (position.ahead (next_ahead taken)))

/-- One call, made where the feed has come to. -/
theorem answers (position : feed.At source) (next : Call) :
    Answers ((lines source).map trimEnd) feed.lineno next (feed.call next).1
      (feed.call next).2.lineno := by
  cases next with
  | line raw =>
      cases taken : feed.take raw with
      | none =>
          have exhausted := hasNext_eq_false.1 (take_eq_none.1 taken)
          simp only [call, taken]
          exact .exhausted raw (position.length_le_lineno.2 exhausted)
      | some result =>
          simp only [call, taken]
          cases raw with
          | false => exact .logical (position.logical taken)
          | true =>
              obtain ⟨⟨rest, pending⟩, moved⟩ := nextRaw_eq taken
              rw [moved]
              exact .raw (position.listed pending)
  | continuation text =>
      have continued := feed.pull_continues text
      have moved : (feed.pull text).2.At source := position.ahead (pullAux_ahead ..)
      refine .continuation (position.logicals continued.handed) continued.asks ?_
      exact continued.ends.imp_right moved.length_le_lineno.2

/-- Calls one after the other, from where the feed has come to. -/
theorem inTurn (position : feed.At source) (sequence : List Call) :
    InTurn ((lines source).map trimEnd) feed.lineno sequence (feed.calls sequence).1
      (feed.calls sequence).2.lineno := by
  induction sequence generalizing feed with
  | nil => exact .done _
  | cons first rest ih =>
      exact .call (position.answers first) (ih (position.ahead (call_ahead feed first)))

end At

/-- Whatever calls a new feed has served, each was answered from the physical lines behind those of the
call before, the first from line 1 on, and the feed's line number is that of the last line used. It is
never more than there are lines, lines are left as long as it is less, and only when none is left is
none handed out; then no call changes the feed. -/
theorem calls_hand_out_lines {filename : Option String} {source : List Char} {sequence : List Call}
    {answers : List (List (List Char))} {feed : Feed}
    (served : (ofSource filename source).calls sequence = (answers, feed)) :
    InTurn ((lines source).map trimEnd) 0 sequence answers feed.lineno ∧
      feed.lineno ≤ (lines source).length ∧
      (feed.hasNext = true ↔ feed.lineno < (lines source).length) ∧
      (∀ raw, feed.take raw = none ↔ feed.hasNext = false) ∧
      (feed.hasNext = false → ∀ next, feed.call next = ([], feed)) := by
  have turns := (at_ofSource filename source).inTurn sequence
  have moved := calls_ahead (ofSource filename source) sequence
  rw [served] at turns moved
  have position : feed.At source := (at_ofSource filename source).ahead moved
  have bound : feed.lineno ≤ (lines source).length := by
    obtain ⟨count, fits, rfl⟩ := moved
    simpa [ofSource, skip] using fits
  refine ⟨turns, bound, ?_, fun raw => take_eq_none, call_exhausted⟩
  have spent := position.length_le_lineno
  rw [List.length_map, ← hasNext_eq_false] at spent
  rw [← Bool.not_eq_false, ← spent, Nat.not_le]

/-- A raw line that is piped, a fold of one line, code whose continuation folds two lines, of which the
second leaves nothing, a line that stands for itself, and two calls behind the end. -/
theorem calls_hand_out_lines_folded :
    (ofSource none "a |\n  b | \n- f(x,\n  y |\n   |\nz\n".toList).calls
        [.line true, .line false, .line false, .continuation "f(x,".toList, .line false, .line false,
          .line true] =
      ([["a |".toList], ["  b ".toList], ["- f(x,".toList], ["  y \n".toList], ["z".toList], [], []],
        ⟨none, [], 6⟩) ∧
    InTurn ["a |".toList, "  b |".toList, "- f(x,".toList, "  y |".toList, "   |".toList, "z".toList] 0
      [.line true, .line false, .line false, .continuation "f(x,".toList, .line false, .line false,
        .line true]
      [["a |".toList], ["  b ".toList], ["- f(x,".toList], ["  y \n".toList], ["z".toList], [], []] 6 ∧
    (⟨none, [], 6⟩ : Feed).take false = none := by
  have served : (ofSource none "a |\n  b | \n- f(x,\n  y |\n   |\nz\n".toList).calls
        [.line true, .line false, .line false, .continuation "f(x,".toList, .line false, .line false,
          .line true] =
      ([["a |".toList], ["  b ".toList], ["- f(x,".toList], ["  y \n".toList], ["z".toList], [], []],
        ⟨none, [], 6⟩) := by
    rfl
  obtain ⟨turns, -, -, none, -⟩ := calls_hand_out_lines served
  exact ⟨served, turns, (none false).2 rfl⟩

end Feed

end HamlTree
