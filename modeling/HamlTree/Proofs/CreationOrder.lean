import HamlTree.Proofs.TreeGrowth

/-!
# CreationOrder -- trees whose child lists are in order of creation

`Ordered` trees have every child list in order of creation, so that their walk meets the nodes in
that order. Storing a node below one of the open containers keeps a tree ordered
(`Ordered.append`). Moving trailing blanks keeps it ordered unless there are some to move and the
node that they move to has children already (`Ordered.relocate`). In that case the tree is
`Disordered` from then on: a child list has an older node behind a younger one, and neither storing
nor moving nodes ever parts the two (`Disordered.append`, `Disordered.relocate`).
-/

set_option autoImplicit false

namespace HamlTree.Arena

variable {arena : Arena} {parent target : Nat} {containers : List Nat}

/-! ## Ordered trees -/

/-- Child lists are in order of creation, lines from parents to children do not cross, and none
reaches across one of the `containers`, so that more nodes may be stored below these. -/
structure Ordered (arena : Arena) (containers : List Nat) : Prop where
  sorted : ∀ parent : Nat, (arena.children parent).Pairwise (· < ·)
  planar : arena.Planar
  clear : ∀ {container parent child : Nat}, container ∈ containers →
    child ∈ arena.children parent → parent < container → child ≤ container

namespace Ordered

theorem empty (containers : List Nat) : Arena.empty.Ordered containers where
  sorted parent := by simp [children_empty]
  planar listed := by simp [children_empty] at listed
  clear _ listed := by simp [children_empty] at listed

theorem append (ordered : arena.Ordered containers) (rooted : arena.Rooted)
    (container : arena.isContainer parent = true) (innermost : ∀ outer ∈ containers, outer ≤ parent)
    (isOpen : parent ∈ containers) (node : Node) :
    (arena.append parent node).2.Ordered containers where
  sorted id := by
    rw [children_append container]
    split
    · refine List.pairwise_append.2 ⟨ordered.sorted parent, by simp, ?_⟩
      intro child listed fresh newest
      rw [List.mem_singleton] at newest
      exact newest ▸ rooted.stored listed
    · exact ordered.sorted id
  planar := by
    intro id child inner below listed innerListed after before
    rcases (mem_children_append container node _ _).1 listed with old | ⟨rfl, rfl⟩
    · rcases (mem_children_append container node _ _).1 innerListed with innerOld | ⟨rfl, -⟩
      · exact ordered.planar old innerOld after before
      · exact absurd (ordered.clear isOpen old after) (Nat.not_le.2 before)
    · rcases (mem_children_append container node _ _).1 innerListed with innerOld | ⟨same, -⟩
      · exact rooted.stored innerOld
      · omega
  clear := by
    intro outer id child member listed before
    rcases (mem_children_append container node _ _).1 listed with old | ⟨rfl, -⟩
    · exact ordered.clear member old before
    · exact absurd (innermost outer member) (Nat.not_le.2 before)

section Relocate

variable (ordered : arena.Ordered containers) (rooted : arena.Rooted) (isOpen : parent ∈ containers)
  (youngest : arena.youngest? parent = some target)
include ordered rooted isOpen youngest

/-- But for the trailing blanks, everything below nodes made before the youngest child was made
before it as well. -/
theorem le_youngest {other child : Nat} (listed : child ∈ arena.children other)
    (before : other < target) (kept : other = parent → child ∉ arena.trailingBlanks parent) :
    child ≤ target := by
  have target_mem := mem_children_of_youngest? youngest
  rcases Nat.lt_trichotomy other parent with outside | rfl | inside
  · have := ordered.clear isOpen listed outside
    have := rooted.parent_lt target_mem
    omega
  · obtain ⟨earlier, split⟩ := List.getLast?_eq_some_iff.1 youngest
    have known := ordered.sorted other
    rw [← kept_append_trailing, split] at known listed
    rcases List.mem_append.1 listed with stays | moves
    · rcases List.mem_append.1 stays with first | last
      · have sorted := (List.pairwise_append.1 (List.pairwise_append.1 known).1).2.2
        exact Nat.le_of_lt (sorted child first target (List.mem_singleton.2 rfl))
      · exact Nat.le_of_eq (List.mem_singleton.1 last)
    · exact absurd moves (kept rfl)
  · exact Nat.le_of_lt (ordered.planar target_mem listed inside before)

theorem relocate (container : arena.isContainer target = true)
    (innermost : ∀ outer ∈ containers, outer ≤ parent)
    (neat : arena.trailingBlanks parent = [] ∨ arena.children target = []) :
    (arena.relocate parent target).Ordered (target :: containers) where
  sorted id := by
    have whole := ordered.sorted parent
    rw [← kept_append_trailing, List.pairwise_append] at whole
    rw [rooted.children_relocate youngest container]
    split
    · exact whole.1
    split
    · rcases neat with none | none
      · rw [none, List.nil_append]
        exact ordered.sorted target
      · rw [none, List.append_nil]
        exact whole.2.1
    · exact ordered.sorted id
  planar := by
    intro id child inner below listed innerListed after before
    have older := rooted.parent_lt (mem_children_of_youngest? youngest)
    rcases (rooted.mem_children_relocate youngest container _ _).1 innerListed with
      ⟨innerOld, -⟩ | ⟨rfl, -⟩
    · rcases (rooted.mem_children_relocate youngest container _ _).1 listed with
        ⟨old, -⟩ | ⟨rfl, trailing⟩
      · exact ordered.planar old innerOld after before
      · have moved := mem_children_of_trailing trailing
        exact ordered.planar moved innerOld (Nat.lt_trans older after) before
    · rcases (rooted.mem_children_relocate youngest container _ _).1 listed with
        ⟨old, stays⟩ | ⟨rfl, -⟩
      · have le := ordered.le_youngest rooted isOpen youngest old after stays
        exact absurd before (Nat.not_lt.2 le)
      · exact absurd after (Nat.lt_irrefl _)
  clear := by
    intro outer id child member listed before
    have older := rooted.parent_lt (mem_children_of_youngest? youngest)
    rcases (rooted.mem_children_relocate youngest container _ _).1 listed with
      ⟨old, stays⟩ | ⟨rfl, -⟩
    · rcases List.mem_cons.1 member with rfl | outside
      · exact ordered.le_youngest rooted isOpen youngest old before stays
      · exact ordered.clear outside old before
    · rcases List.mem_cons.1 member with rfl | outside
      · exact absurd before (Nat.lt_irrefl _)
      · have := innermost outer outside
        omega

end Relocate

end Ordered

/-! ## Disordered trees -/

/-- In some child list an older node stands behind a younger one, with blank nodes only before it if
it is blank itself. -/
def Disordered (arena : Arena) : Prop :=
  ∃ (parent early late : Nat) (before after : List Nat),
    arena.children parent = before ++ early :: after ∧ late ∈ before ∧ early < late ∧
      (arena.isBlank early = true → ∀ other ∈ before, arena.isBlank other = true)

namespace Disordered

theorem not_sorted (disordered : arena.Disordered) :
    ¬ ∀ parent : Nat, (arena.children parent).Pairwise (· < ·) := by
  obtain ⟨parent, early, late, before, after, list, member, older, -⟩ := disordered
  intro sorted
  have known := sorted parent
  rw [list, List.pairwise_append] at known
  exact Nat.lt_asymm older (known.2.2 late member early List.mem_cons_self)

theorem append (disordered : arena.Disordered) (rooted : arena.Rooted)
    (container : arena.isContainer parent = true) (node : Node) :
    (arena.append parent node).2.Disordered := by
  obtain ⟨id, early, late, before, after, list, member, older, blanks⟩ := disordered
  have same : ∀ {child : Nat}, child ∈ before ++ early :: after →
      (arena.append parent node).2.isBlank child = arena.isBlank child := fun listed =>
    isBlank_congr (node?_append_of_lt (rooted.stored (list ▸ listed)) parent node)
  have keeps : (arena.append parent node).2.isBlank early = true →
      ∀ other ∈ before, (arena.append parent node).2.isBlank other = true := by
    intro blank other inFront
    rw [same (List.mem_append_left _ inFront)]
    exact blanks (same (List.mem_append_right _ List.mem_cons_self) ▸ blank) other inFront
  by_cases atParent : id = parent
  · subst atParent
    refine ⟨id, early, late, before, after ++ [arena.size], ?_, member, older, keeps⟩
    rw [children_append container, if_pos rfl, list]
    simp
  · refine ⟨id, early, late, before, after, ?_, member, older, keeps⟩
    rw [children_append container, if_neg atParent, list]

section Relocate

variable (rooted : arena.Rooted) (youngest : arena.youngest? parent = some target)
  (container : arena.isContainer target = true)
include rooted youngest container

theorem relocate (disordered : arena.Disordered) : (arena.relocate parent target).Disordered := by
  obtain ⟨id, early, late, before, after, list, member, older, blanks⟩ := disordered
  have same : ∀ child, (arena.relocate parent target).isBlank child = arena.isBlank child :=
    fun child => isBlank_congr (node?_relocate ..)
  simp only [Disordered, same]
  have lists := rooted.children_relocate youngest container
  by_cases atParent : id = parent
  · subst atParent
    -- the youngest child is not blank, so the early node is not among the trailing blanks
    have kept : early ∉ arena.trailingBlanks id ∨ target ∉ before := by
      by_contra both
      simp only [not_or, not_not] at both
      have blank := blanks (isBlank_of_mem_trailing both.1) target both.2
      rw [isBlank_youngest? youngest] at blank
      cases blank
    have inKept := mem_kept_of_youngest? youngest
    have parts := (arena.kept_append_trailing id).trans list
    rcases List.append_eq_append_iff.1 parts with ⟨rest, inFront, trailing⟩ | ⟨rest, inFront, tail⟩
    · have early_mem : early ∈ arena.trailingBlanks id := by simp [trailing]
      have target_mem : target ∈ before := by
        rw [inFront]
        exact List.mem_append_left _ inKept
      exact absurd (kept.resolve_left (not_not.2 early_mem)) (not_not.2 target_mem)
    · cases rest with
      | nil =>
          have early_mem : early ∈ arena.trailingBlanks id := by
            rw [List.nil_append] at tail
            simp [← tail]
          have target_mem : target ∈ before := by simpa [inFront] using inKept
          exact absurd (kept.resolve_left (not_not.2 early_mem)) (not_not.2 target_mem)
      | cons first others =>
          obtain ⟨rfl, -⟩ := List.cons.inj tail
          refine ⟨id, early, late, before, others, ?_, member, older, blanks⟩
          rw [lists, if_pos rfl, inFront]
  · by_cases atTarget : id = target
    · subst atTarget
      refine ⟨id, early, late, arena.trailingBlanks parent ++ before, after, ?_,
        List.mem_append_right _ member, older, ?_⟩
      · rw [lists, if_neg atParent, if_pos rfl, list, List.append_assoc]
      · intro blank other inFront
        rcases List.mem_append.1 inFront with moved | old
        · exact isBlank_of_mem_trailing moved
        · exact blanks blank other old
    · refine ⟨id, early, late, before, after, ?_, member, older, blanks⟩
      rw [lists, if_neg atParent, if_neg atTarget, list]

/-- Blank nodes that move in front of older nodes put the tree in disorder. -/
theorem of_relocate (planar : arena.Planar) (aged : arena.Aged)
    (moved : arena.trailingBlanks parent ≠ []) (nested : arena.children target ≠ []) :
    (arena.relocate parent target).Disordered := by
  obtain ⟨early, after, list⟩ := List.exists_cons_of_ne_nil nested
  obtain ⟨late, others, trailing⟩ := List.exists_cons_of_ne_nil moved
  have late_mem : late ∈ arena.trailingBlanks parent := trailing ▸ List.mem_cons_self
  have older : early < late :=
    planar (mem_children_of_trailing late_mem) (list ▸ List.mem_cons_self)
      (rooted.parent_lt (mem_children_of_youngest? youngest)) (aged.youngest_lt youngest late_mem)
  refine ⟨target, early, late, arena.trailingBlanks parent, after, ?_, late_mem, older, ?_⟩
  · rw [rooted.children_relocate youngest container,
      if_neg (rooted.parent_ne_youngest youngest).symm, if_pos rfl, list]
  · intro _ other inFront
    rw [isBlank_congr (node?_relocate ..)]
    exact isBlank_of_mem_trailing inFront

end Relocate

end Disordered

end HamlTree.Arena
