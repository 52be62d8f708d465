import HamlTree.Proofs.Stepping

/-!
# Dating -- nodes are made in the order of their lines

`Arena.DatedTo bound` says that each node is from a later line than all nodes made before it, and
none from beyond line `bound`. Reading keeps it with the last line taken for a bound. A filter is
the exception: its node is made when its body is over, with the number of the line that opened it.
So while a filter is being read no node is from that line or a later one (`State.Dated`), and its
blank lines, which get nodes after it, are counted from the end of its body.

In an accepted template a node is older than another exactly if it is from an earlier line
(`DatedTo.lt_iff`).
-/

set_option autoImplicit false

namespace HamlTree

namespace Arena

/-- Every node is from a later line than those made before it, and from line `bound` at most. -/
structure DatedTo (arena : Arena) (bound : Nat) : Prop where
  nonempty : root < arena.size
  lineno_root : arena.lineno root = 0
  increasing : ∀ {earlier later : Nat}, earlier < later → later < arena.size →
    arena.lineno earlier < arena.lineno later
  lineno_le : ∀ {id : Nat}, id < arena.size → arena.lineno id ≤ bound

namespace DatedTo

variable {arena after : Arena} {bound : Nat}

theorem empty : Arena.empty.DatedTo 0 where
  nonempty := Nat.one_pos
  lineno_root := rfl
  increasing before stored := by
    have : Arena.empty.size = 1 := rfl
    omega
  lineno_le {id} stored := by
    have : Arena.empty.size = 1 := rfl
    obtain rfl : id = 0 := by omega
    exact Nat.le_refl 0

theorem mono (dated : arena.DatedTo bound) {last : Nat} (le : bound ≤ last) :
    arena.DatedTo last where
  nonempty := dated.nonempty
  lineno_root := dated.lineno_root
  increasing := dated.increasing
  lineno_le stored := Nat.le_trans (dated.lineno_le stored) le

/-- Lines are read off nodes, so moving nodes does not change them. -/
theorem congr (dated : arena.DatedTo bound) (size : after.size = arena.size)
    (same : ∀ id, after.node? id = arena.node? id) : after.DatedTo bound where
  nonempty := size ▸ dated.nonempty
  lineno_root := by rw [lineno_congr (same _), dated.lineno_root]
  increasing before stored := by
    rw [lineno_congr (same _), lineno_congr (same _)]
    exact dated.increasing before (size ▸ stored)
  lineno_le stored := by
    rw [lineno_congr (same _)]
    exact dated.lineno_le (size ▸ stored)

theorem append (dated : arena.DatedTo bound) (parent : Nat) {node : Node}
    (later : bound < node.stamp.lineno) :
    (arena.append parent node).2.DatedTo node.stamp.lineno := by
  have old : ∀ {id : Nat}, id < arena.size →
      (arena.append parent node).2.lineno id = arena.lineno id :=
    fun stored => lineno_congr (node?_append_of_lt stored parent node)
  have new : (arena.append parent node).2.lineno arena.size = node.stamp.lineno := by
    simp [lineno]
  refine ⟨?_, ?_, ?_, ?_⟩
  · rw [size_append]
    exact Nat.lt_succ_of_lt dated.nonempty
  · rw [old dated.nonempty, dated.lineno_root]
  · intro earlier later before stored
    rw [size_append] at stored
    by_cases fresh : later = arena.size
    · subst fresh
      rw [new, old before]
      exact Nat.lt_of_le_of_lt (dated.lineno_le before) ‹_›
    · have laterStored : later < arena.size := by omega
      rw [old laterStored, old (Nat.lt_trans before laterStored)]
      exact dated.increasing before laterStored
  · intro id stored
    rw [size_append] at stored
    by_cases fresh : id = arena.size
    · subst fresh
      exact Nat.le_of_eq new
    · have oldStored : id < arena.size := by omega
      rw [old oldStored]
      exact Nat.le_trans (dated.lineno_le oldStored) (Nat.le_of_lt later)

/-- Of two nodes the one from the earlier line is the older. -/
theorem lt_iff (dated : arena.DatedTo bound) {id other : Nat} (stored : id < arena.size)
    (otherStored : other < arena.size) : arena.lineno id < arena.lineno other ↔ id < other := by
  refine ⟨fun before => ?_, fun before => dated.increasing before otherStored⟩
  rcases Nat.lt_trichotomy id other with older | rfl | younger
  · exact older
  · exact absurd before (Nat.lt_irrefl _)
  · exact absurd before (Nat.lt_asymm (dated.increasing younger stored))

end DatedTo

end Arena

namespace Template.State

open Indentation FilterBlock Text

/-- Blank nodes for lines that follow those of all nodes. -/
theorem datedTo_addBlanks {state : State} {bound first count last : Nat}
    (dated : state.arena.DatedTo bound) (later : bound < first) (ends : first + count ≤ last + 1)
    (le : bound ≤ last) : (state.addBlanks (List.range' first count)).arena.DatedTo last := by
  induction count generalizing state bound first with
  | zero => exact dated.mono le
  | succ count ih =>
      rw [List.range'_succ, addBlanks_cons]
      have next : (state.addNode ⟨state.stampAt first, .blank⟩).arena.DatedTo first :=
        dated.append state.current later
      exact ih next (by omega) (by omega) (by omega)

/-- A finished filter whose body reaches up to line `last`. -/
theorem datedTo_addFilter {state : State} {draft : Draft} {bound last : Nat}
    (dated : state.arena.DatedTo bound) (later : bound < draft.stamp.lineno)
    (body : draft.stamp.lineno + draft.texts.length = last) :
    (state.addFilter draft.finish last).arena.DatedTo last := by
  have blanks := draft.finish_trailingBlanks_le
  have next : (state.addNode draft.finish.node).arena.DatedTo draft.stamp.lineno :=
    dated.append state.current later
  exact datedTo_addBlanks next (by omega) (by omega) (by omega)

/-- Nodes reach up to the last line taken, or else up to the filter being read. -/
structure Dated (state : State) : Prop where
  closed : state.filter.draft = none → state.arena.DatedTo state.feed.lineno
  opened : ∀ draft, state.filter.draft = some draft →
    (∃ bound, state.arena.DatedTo bound ∧ bound < draft.stamp.lineno) ∧
      draft.stamp.lineno + draft.texts.length = state.feed.lineno

namespace Dated

variable {source : List Char} {state next : State}

theorem ofSource (source : List Char) (filename : Option String) :
    (State.ofSource source filename).Dated where
  closed _ := .empty
  opened draft found := by cases found

/-- When a line is read, no node is from that line yet. -/
theorem reads (dated : state.Dated) (aligned : state.Aligned) {ready entered : State}
    {line physical : List Char} {feed : Feed}
    (reads : Reads source state line physical feed ready entered) :
    entered.arena.DatedTo state.feed.lineno := by
  obtain ⟨sameSize, sameNode⟩ :=
    reads.followed.nodes (reads.started_aligned aligned).container
  have before : ready.arena.DatedTo state.feed.lineno := by
    cases reads.readied with
    | idle closed => exact dated.closed closed
    | @closing draft found outside single =>
        obtain ⟨⟨bound, before, later⟩, body⟩ := dated.opened draft found
        have number : feed.lineno - 1 = state.feed.lineno := by
          rw [reads.taken.lineno_eq, single]
          rfl
        rw [number]
        exact datedTo_addFilter before later body
  exact before.congr sameSize sameNode

/-- The node of a line, if it has one, is followed by blank nodes for the lines folded into it. -/
theorem folded {after : State} {line physical : List Char} {feed : Feed} {bound : Nat}
    (taken : Feed.Taken source state.feed line feed physical)
    (dated : after.arena.DatedTo bound) (le : bound ≤ state.feed.lineno + 1)
    (closed : after.filter.draft = none) (moved : feed.Ahead after.feed) :
    (after.addBlanks (List.range' (state.feed.lineno + 2) (line.count '\n'))).Dated := by
  have number := taken.lineno_eq
  have reach := moved.lineno_le
  have counted := @datedTo_addBlanks after bound (state.feed.lineno + 2) (line.count '\n')
    after.feed.lineno dated (by omega) (by omega) (by omega)
  rw [addBlanks_frame]
  refine ⟨fun _ => counted, fun draft found => ?_⟩
  cases closed.symm.trans found

theorem step (dated : state.Dated) (aligned : state.Aligned)
    (stepped : state.Stepped source next) : next.Dated := by
  cases stepped with
  | @collect draft text line physical feed filter opened found outside taken single grown =>
      obtain ⟨before, body⟩ := dated.opened draft found
      refine ⟨fun none => ?_, fun now same => ?_⟩
      · cases grown.symm.trans none
      · cases grown.symm.trans same
        refine ⟨before, ?_⟩
        have moved := taken.lineno_eq
        simp only [Draft.push, List.length_append, List.length_singleton]
        omega
  | @read line physical feed ready entered after reads told =>
      have before := dated.reads aligned reads
      have ahead : feed.Ahead after.feed := reads.feed_eq ▸ told.ahead
      have later : state.feed.lineno < entered.lineno := by
        rw [reads.lineno_eq]
        exact Nat.lt_succ_self _
      have latest : entered.lineno ≤ state.feed.lineno + 1 := Nat.le_of_eq reads.lineno_eq
      cases told with
      | blank gone =>
          exact folded reads.taken (before.append entered.current later) latest reads.closed ahead
      | remark solid inside =>
          exact folded reads.taken (before.append entered.current later) latest reads.closed ahead
      | node solid outside moved filled =>
          exact folded reads.taken (before.append entered.current later) latest reads.closed ahead
      | filter outside named word =>
          have single := (Placed.opens aligned reads outside named word).1
          rw [single]
          refine ⟨fun none => ?_, fun draft found => ?_⟩
          · cases none
          · cases found
            refine ⟨⟨_, before, later⟩, ?_⟩
            change entered.lineno + 0 = entered.feed.lineno
            rw [reads.feed_eq, reads.lineno_eq, reads.taken.lineno_eq, single]
      | nothing solid outside moved void =>
          exact folded reads.taken before (Nat.le_succ _) reads.closed ahead

end Dated

end State

/-- Between any two lines the nodes are in the order of their lines. -/
theorem Reached.dated {source : List Char} {filename : Option String} {state : State}
    (reached : Reached source filename state) : state.Dated := by
  induction reached with
  | start => exact .ofSource source filename
  | step reached more steps ih =>
      exact ih.step reached.aligned (State.step_stepped reached.placed more steps)

/-- The nodes of an accepted template were made in the order of their lines. -/
theorem datedTo_of_parse {source : List Char} {filename : Option String} {arena : Arena}
    (accepted : parse source filename = .ok arena) : ∃ bound, arena.DatedTo bound := by
  obtain ⟨last, -, reached, -, rfl⟩ := parse_cases accepted
  rcases State.flushed_cases last with ⟨closed, same⟩ | ⟨draft, found, same⟩
  · rw [same]
    exact ⟨_, reached.dated.closed closed⟩
  · rw [same]
    obtain ⟨⟨bound, before, later⟩, body⟩ := reached.dated.opened draft found
    exact ⟨_, State.datedTo_addFilter before later body⟩

end Template

end HamlTree
