import HamlTree.Proofs.Preorder

/-!
# TreeGrowth -- the two changes that reading makes to a tree

While a template is read its arena changes in two ways only: a node is stored below a container
(`Arena.append`), and the blank nodes at the end of a child list move below the youngest other child
(`Arena.relocate`). Both keep the arena `Rooted`. Both keep it `Aged` too: past the first child
that is not blank, a child list is in order of creation, since only blank nodes are ever put in
front.
-/

set_option autoImplicit false

namespace HamlTree.Arena

variable {arena : Arena} {parent target : Nat}

/-- A child that is not blank is older than those that follow it. -/
def Aged (arena : Arena) : Prop :=
  ∀ parent : Nat, (arena.children parent).Pairwise fun earlier later =>
    arena.isBlank earlier = true ∨ earlier < later

/-! ## The root alone -/

theorem children_empty (id : Nat) : empty.children id = [] := by
  rcases id with _ | id
  · rfl
  · exact children_of_size_le (Nat.succ_le_succ (Nat.zero_le id))

theorem Rooted.empty : Arena.empty.Rooted where
  content_root := rfl
  parent_lt listed := by simp [children_empty] at listed
  stored listed := by simp [children_empty] at listed
  nodup parent := by simp [children_empty]
  parent_unique listed := by simp [children_empty] at listed
  attached positive stored := absurd (Nat.lt_of_lt_of_le positive (Nat.le_of_lt_succ stored))
    (Nat.lt_irrefl 0)
  container listed := by simp [children_empty] at listed

theorem Aged.empty : Arena.empty.Aged := by
  intro parent
  rw [children_empty]
  exact .nil

/-! ## Storing a node -/

theorem mem_children_append (container : arena.isContainer parent = true) (node : Node)
    (id child : Nat) :
    child ∈ (arena.append parent node).2.children id ↔
      child ∈ arena.children id ∨ (id = parent ∧ child = arena.size) := by
  rw [children_append container]
  by_cases same : id = parent
  · subst same
    simp
  · simp [same]

theorem Rooted.append (rooted : arena.Rooted) (container : arena.isContainer parent = true)
    (node : Node) : (arena.append parent node).2.Rooted where
  content_root := by
    rw [content?_congr (node?_append_of_lt rooted.size_pos parent node)]
    exact rooted.content_root
  parent_lt listed := by
    rcases (mem_children_append container node _ _).1 listed with old | ⟨rfl, rfl⟩
    · exact rooted.parent_lt old
    · exact lt_size_of_isContainer container
  stored listed := by
    rw [size_append]
    rcases (mem_children_append container node _ _).1 listed with old | ⟨-, rfl⟩
    · exact Nat.lt_succ_of_lt (rooted.stored old)
    · exact Nat.lt_succ_self _
  nodup id := by
    rw [children_append container]
    split
    · refine List.nodup_append.2 ⟨rooted.nodup _, by simp, ?_⟩
      intro child old fresh listed same
      rw [List.mem_singleton] at listed
      exact Nat.lt_irrefl _ ((same.trans listed) ▸ rooted.stored old)
    · exact rooted.nodup id
  parent_unique first second := by
    rcases (mem_children_append container node _ _).1 first with old | ⟨rfl, rfl⟩
    · rcases (mem_children_append container node _ _).1 second with other | ⟨-, rfl⟩
      · exact rooted.parent_unique old other
      · exact absurd (rooted.stored old) (Nat.lt_irrefl _)
    · rcases (mem_children_append container node _ _).1 second with other | ⟨rfl, -⟩
      · exact absurd (rooted.stored other) (Nat.lt_irrefl _)
      · rfl
  attached := by
    intro child positive stored
    rw [size_append] at stored
    by_cases fresh : child = arena.size
    · exact ⟨parent, (mem_children_append container node _ _).2 (.inr ⟨rfl, fresh⟩)⟩
    · obtain ⟨id, listed⟩ := rooted.attached positive (by omega)
      exact ⟨id, (mem_children_append container node _ _).2 (.inl listed)⟩
  container listed := by
    rcases (mem_children_append container node _ _).1 listed with old | ⟨rfl, -⟩
    · have older := Nat.lt_trans (rooted.parent_lt old) (rooted.stored old)
      rw [isContainer_congr (node?_append_of_lt older parent node)]
      exact rooted.container old
    · rw [isContainer_congr (node?_append_of_lt (lt_size_of_isContainer container) _ node)]
      exact container

theorem Aged.append (aged : arena.Aged) (rooted : arena.Rooted)
    (container : arena.isContainer parent = true) (node : Node) :
    (arena.append parent node).2.Aged := by
  intro id
  have old : (arena.children id).Pairwise fun earlier later =>
      (arena.append parent node).2.isBlank earlier = true ∨ earlier < later := by
    refine (aged id).imp_of_mem fun {earlier later} listed _ known => ?_
    rw [isBlank_congr (node?_append_of_lt (rooted.stored listed) parent node)]
    exact known
  rw [children_append container]
  split
  · rename_i same
    subst same
    refine List.pairwise_append.2 ⟨old, by simp, ?_⟩
    intro child listed fresh newest
    rw [List.mem_singleton] at newest
    exact .inr (newest ▸ rooted.stored listed)
  · exact old

/-- A node that is not blank is the youngest child from when it is stored. -/
theorem Rooted.youngest?_append (rooted : arena.Rooted)
    (container : arena.isContainer parent = true) (node : Node) :
    (arena.append parent node).2.youngest? parent =
      if node.content.isBlank then arena.youngest? parent else some arena.size := by
  have newest : (arena.append parent node).2.isBlank arena.size = node.content.isBlank := by
    simp [isBlank, content?]
  have old : (arena.children parent).rdropWhile (arena.append parent node).2.isBlank =
      (arena.children parent).rdropWhile arena.isBlank :=
    rdropWhile_congr fun child listed =>
      isBlank_congr (node?_append_of_lt (rooted.stored listed) parent node)
  rw [youngest?, keptChildren, dropEndWhile_eq_rdropWhile, children_append container, if_pos rfl,
    List.rdropWhile_concat, newest, old]
  split
  · rfl
  · simp

/-! ## Moving blank nodes -/

/-- The nodes that move are younger than the node they move to. -/
theorem Aged.youngest_lt (aged : arena.Aged) (youngest : arena.youngest? parent = some target)
    {blank : Nat} (trailing : blank ∈ arena.trailingBlanks parent) : target < blank := by
  have known := aged parent
  rw [← kept_append_trailing, List.pairwise_append] at known
  have related := known.2.2 target (mem_kept_of_youngest? youngest) blank trailing
  rw [isBlank_youngest? youngest] at related
  exact related.resolve_left Bool.false_ne_true

section Relocate

variable (rooted : arena.Rooted) (youngest : arena.youngest? parent = some target)
include rooted youngest

theorem Rooted.parent_ne_youngest : parent ≠ target :=
  Nat.ne_of_lt (rooted.parent_lt (mem_children_of_youngest? youngest))

theorem Rooted.children_relocate (container : arena.isContainer target = true) (id : Nat) :
    (arena.relocate parent target).children id =
      if id = parent then arena.keptChildren parent
      else if id = target then arena.trailingBlanks parent ++ arena.children target
      else arena.children id :=
  Arena.children_relocate (rooted.container (mem_children_of_youngest? youngest)) container
    (rooted.parent_ne_youngest youngest) id

theorem Rooted.mem_children_relocate (container : arena.isContainer target = true)
    (id child : Nat) :
    child ∈ (arena.relocate parent target).children id ↔
      (child ∈ arena.children id ∧ (id = parent → child ∉ arena.trailingBlanks parent)) ∨
        (id = target ∧ child ∈ arena.trailingBlanks parent) := by
  have distinct := rooted.parent_ne_youngest youngest
  rw [rooted.children_relocate youngest container]
  by_cases atParent : id = parent
  · subst atParent
    have disjoint := List.disjoint_of_nodup_append
      ((arena.kept_append_trailing id).symm ▸ rooted.nodup id)
    constructor
    · intro kept
      rw [if_pos rfl] at kept
      exact .inl ⟨mem_children_of_kept kept, fun _ trailing => disjoint kept trailing⟩
    · rintro (⟨listed, notTrailing⟩ | ⟨same, -⟩)
      · rw [if_pos rfl]
        rw [← kept_append_trailing] at listed
        exact (List.mem_append.1 listed).resolve_right (notTrailing rfl)
      · exact absurd same distinct
  · by_cases atTarget : id = target
    · subst atTarget
      simp [atParent, or_comm]
    · simp [atParent, atTarget]

theorem Rooted.relocate (aged : arena.Aged) (container : arena.isContainer target = true) :
    (arena.relocate parent target).Rooted where
  content_root := by
    rw [content?_congr (node?_relocate ..)]
    exact rooted.content_root
  parent_lt listed := by
    rcases (rooted.mem_children_relocate youngest container _ _).1 listed with
      ⟨old, -⟩ | ⟨rfl, trailing⟩
    · exact rooted.parent_lt old
    · exact aged.youngest_lt youngest trailing
  stored listed := by
    rw [size_relocate]
    rcases (rooted.mem_children_relocate youngest container _ _).1 listed with
      ⟨old, -⟩ | ⟨-, trailing⟩
    · exact rooted.stored old
    · exact rooted.stored (mem_children_of_trailing trailing)
  nodup id := by
    have whole := rooted.nodup parent
    rw [← kept_append_trailing, List.nodup_append] at whole
    rw [rooted.children_relocate youngest container]
    split
    · exact whole.1
    · split
      · refine List.nodup_append.2 ⟨whole.2.1, rooted.nodup target, ?_⟩
        intro blank trailing child listed same
        have moved := mem_children_of_trailing trailing
        exact rooted.parent_ne_youngest youngest (rooted.parent_unique moved (same ▸ listed))
      · exact rooted.nodup id
  parent_unique first second := by
    rcases (rooted.mem_children_relocate youngest container _ _).1 first with
      ⟨old, stays⟩ | ⟨rfl, trailing⟩
    · rcases (rooted.mem_children_relocate youngest container _ _).1 second with
        ⟨other, -⟩ | ⟨-, trailing⟩
      · exact rooted.parent_unique old other
      · have home := rooted.parent_unique old (mem_children_of_trailing trailing)
        exact absurd trailing (stays home)
    · rcases (rooted.mem_children_relocate youngest container _ _).1 second with
        ⟨other, stays⟩ | ⟨rfl, -⟩
      · have home := rooted.parent_unique other (mem_children_of_trailing trailing)
        exact absurd trailing (stays home)
      · rfl
  attached := by
    intro child positive stored
    rw [size_relocate] at stored
    obtain ⟨id, listed⟩ := rooted.attached positive stored
    by_cases moves : id = parent ∧ child ∈ arena.trailingBlanks parent
    · exact ⟨target, (rooted.mem_children_relocate youngest container _ _).2 (.inr ⟨rfl, moves.2⟩)⟩
    · refine ⟨id, (rooted.mem_children_relocate youngest container _ _).2 (.inl ⟨listed, ?_⟩)⟩
      exact fun same trailing => moves ⟨same, trailing⟩
  container listed := by
    rw [isContainer_congr (node?_relocate ..)]
    rcases (rooted.mem_children_relocate youngest container _ _).1 listed with
      ⟨old, -⟩ | ⟨rfl, -⟩
    · exact rooted.container old
    · exact container

theorem Aged.relocate (aged : arena.Aged) (container : arena.isContainer target = true) :
    (arena.relocate parent target).Aged := by
  intro id
  have same : ∀ child, (arena.relocate parent target).isBlank child = arena.isBlank child :=
    fun child => isBlank_congr (node?_relocate ..)
  simp only [same]
  rw [rooted.children_relocate youngest container]
  split
  · have whole := aged parent
    rw [← kept_append_trailing, List.pairwise_append] at whole
    exact whole.1
  · split
    · have blank : ∀ child ∈ arena.trailingBlanks parent, arena.isBlank child = true :=
        fun child trailing => isBlank_of_mem_trailing trailing
      refine List.pairwise_append.2 ⟨?_, aged target, fun child trailing _ _ =>
        .inl (blank child trailing)⟩
      exact List.pairwise_of_forall_mem_list fun child trailing _ _ => .inl (blank child trailing)
    · exact aged id

/-- The target is the last child where it was the youngest one. -/
theorem Rooted.lastChild?_relocate (container : arena.isContainer target = true) :
    (arena.relocate parent target).lastChild? parent = some target := by
  rw [lastChild?, rooted.children_relocate youngest container, if_pos rfl]
  exact youngest

end Relocate

end HamlTree.Arena
