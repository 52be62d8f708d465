import HamlTree.Proofs.Stepping

/-!
# PlainReading -- reading where white space is plain

Where blanks, tabs and line feeds are the only white space, a line with text always yields a node or
opens a filter. So when a deeper line comes, outside comments, the node that it goes below is the
last one made that is not blank, and has no children (`State.Fresh`).
-/

set_option autoImplicit false

namespace HamlTree.Template

open Indentation FilterBlock Text

namespace State

variable {source line : List Char} {state next ready : State} {feed : Feed}

/-- The node that a deeper line would go below has no children yet, and only blank nodes were made
after it. -/
def Fresh (state : State) : Prop :=
  state.filter.draft = none → state.inAuthorComment = false →
    ∀ target : Nat, state.arena.youngest? state.current = some target →
      state.arena.children target = [] ∧
        ∀ id : Nat, target < id → id < state.arena.size → state.arena.isBlank id = true

namespace Fresh

theorem addNode (aligned : state.Aligned) {node : Node}
    (fresh : node.content.isBlank = true → state.Fresh) : (state.addNode node).Fresh := by
  intro closed outside target youngest
  rw [aligned.inAuthorComment_addNode] at outside
  have current_lt := aligned.lt_size (List.mem_cons_self ..)
  have lists := Arena.children_append aligned.container node target
  have known := aligned.rooted.youngest?_append aligned.container node
  have size : (state.addNode node).arena.size = state.arena.size + 1 := Arena.size_append ..
  cases blank : node.content.isBlank with
  | true =>
      rw [blank, if_pos rfl] at known
      have old := known.symm.trans youngest
      have older := aligned.rooted.parent_lt (Arena.mem_children_of_youngest? old)
      obtain ⟨childless, blanks⟩ := fresh blank closed outside target old
      refine ⟨(lists.trans (if_neg (Nat.ne_of_gt older))).trans childless, fun id later stored => ?_⟩
      by_cases newest : id = state.arena.size
      · subst newest
        simpa [State.addNode, Arena.isBlank, Arena.content?] using blank
      · have oldStored : id < state.arena.size := by omega
        exact (Arena.isBlank_congr (Arena.node?_append_of_lt oldStored ..)).trans
          (blanks id later oldStored)
  | false =>
      rw [blank, if_neg Bool.false_ne_true] at known
      obtain rfl : state.arena.size = target := Option.some.inj (known.symm.trans youngest)
      refine ⟨(lists.trans (if_neg (Nat.ne_of_gt current_lt))).trans
        (Arena.children_of_size_le (Nat.le_refl _)), fun id later stored => ?_⟩
      omega

theorem addBlanks (fresh : state.Fresh) (aligned : state.Aligned) (linenos : List Nat) :
    (state.addBlanks linenos).Fresh := by
  induction linenos generalizing state with
  | nil => exact fresh
  | cons lineno rest ih =>
      rw [addBlanks_cons]
      exact ih (addNode aligned fun _ => fresh) (aligned.addNode _)

theorem readied (fresh : state.Fresh) (aligned : state.Aligned)
    (readied : Ready state line feed ready) : ready.Fresh := by
  cases readied with
  | idle closed => exact fresh
  | @closing draft found outside single =>
      have begun : { state with feed, lineno := feed.lineno, filter := {} }.Aligned :=
        aligned.growth (.note state feed {} feed.lineno)
      exact addBlanks (addNode begun fun blank => Bool.noConfusion blank) (begun.addNode _) _

theorem step (fresh : state.Fresh) (aligned : state.Aligned) (plain : Plain source)
    (stepped : state.Stepped source next) : next.Fresh := by
  cases stepped with
  | collect opened found outside taken single grown =>
      intro closed
      cases grown.symm.trans closed
  | @read line physical feed ready entered after reads told =>
      have inner := reads.aligned aligned
      refine addBlanks ?_ (inner.grows told.grows) _
      cases told with
      | blank gone =>
          refine addNode inner fun _ => ?_
          cases reads.followed with
          | stay why =>
              have readied := fresh.readied aligned reads.readied
              exact readied
          | enter solid higher outside enters => exact absurd gone solid
          | leave solid lower outside closes => exact absurd gone solid
      | remark solid inside =>
          intro closed outside
          rw [State.add, inner.inAuthorComment_addNode, inside] at outside
          cases outside
      | @node content feed solid outside moved filled =>
          have noted := inner.growth (.note entered feed entered.filter entered.lineno)
          refine addNode noted fun blank => ?_
          rw [filled] at blank
          cases blank
      | filter outside named word =>
          intro closed
          cases closed
      | nothing solid outside moved void =>
          exact absurd void (reads.taken.trimStart_ne_nil plain solid)

end Fresh

end State

/-- Between any two lines of a plain source. -/
theorem Reached.fresh {source : List Char} {filename : Option String} {state : State}
    (reached : Reached source filename state) (plain : Plain source) : state.Fresh := by
  induction reached with
  | start =>
      intro _ _ target youngest
      have listed := Arena.mem_children_of_youngest? youngest
      rw [State.ofSource, Arena.children_empty] at listed
      cases listed
  | step reached more steps ih =>
      exact ih.step reached.aligned plain (State.step_stepped reached.placed more steps)

end HamlTree.Template
