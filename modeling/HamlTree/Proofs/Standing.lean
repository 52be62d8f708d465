import HamlTree.Proofs.LogicalLine
import HamlTree.Proofs.TreeGrowth

/-!
# Standing -- nodes that take part in nesting, and where one belongs

Blank nodes and what is inside a comment for the author take no part in nesting; the other nodes,
the root apart, `Stands`. Their lines' indentation says where they belong: `Fits source parent child`
holds if the child is not indented and the parent is the root, or the parent is the last node made
before the child that is indented less (`Encloses`).

The two changes that reading makes to a tree never touch what was there: a node stands, and fits
below its parent, as it did before (`stands_append`, `stands_relocate`, `Fits.congr`).
-/

set_option autoImplicit false

namespace HamlTree.Arena

variable {arena after : Arena} {parent target child : Nat} {source : List Char}

/-! ## Comments -/

/-- The node is inside a comment for the author. -/
inductive InComment (arena : Arena) : Nat → Prop where
  | body {comment child : Nat} (isComment : arena.isAuthorComment comment = true)
      (listed : child ∈ arena.children comment) : InComment arena child
  | deeper {parent child : Nat} (inside : InComment arena parent)
      (listed : child ∈ arena.children parent) : InComment arena child

/-- Comments have only leaves for children. -/
def Quiet (arena : Arena) : Prop :=
  ∀ {comment child : Nat}, arena.isAuthorComment comment = true →
    child ∈ arena.children comment → arena.isContainer child = false

theorem inComment_iff (quiet : arena.Quiet) (rooted : arena.Rooted) (id : Nat) :
    arena.InComment id ↔
      ∃ comment : Nat, arena.isAuthorComment comment = true ∧ id ∈ arena.children comment := by
  constructor
  · intro inside
    induction inside with
    | body isComment listed => exact ⟨_, isComment, listed⟩
    | deeper inside listed ih =>
        obtain ⟨comment, isComment, leaf⟩ := ih
        have container := rooted.container listed
        rw [quiet isComment leaf] at container
        cases container
  · rintro ⟨comment, isComment, listed⟩
    exact .body isComment listed

theorem isContainer_of_isBlank {id : Nat} (blank : arena.isBlank id = true) :
    arena.isContainer id = false := by
  cases found : arena.content? id with
  | none => simp [isContainer, found]
  | some content =>
      rw [isBlank, found] at blank
      cases content <;> simp_all [isContainer, Content.isBlank, Content.isContainer]

theorem Quiet.append (quiet : arena.Quiet) (rooted : arena.Rooted)
    (container : arena.isContainer parent = true) {node : Node}
    (suits : arena.isAuthorComment parent = true → node.content.isContainer = false) :
    (arena.append parent node).2.Quiet := by
  intro comment child isComment listed
  rcases (mem_children_append container node _ _).1 listed with old | ⟨rfl, rfl⟩
  · have stored := rooted.stored old
    rw [isAuthorComment_congr (node?_append_of_lt (Nat.lt_trans (rooted.parent_lt old) stored) ..)]
      at isComment
    rw [isContainer_congr (node?_append_of_lt stored ..)]
    exact quiet isComment old
  · rw [isAuthorComment_congr (node?_append_of_lt (lt_size_of_isContainer container) ..)]
      at isComment
    simpa [isContainer, content?] using suits isComment

theorem Quiet.relocate (quiet : arena.Quiet) (rooted : arena.Rooted)
    (youngest : arena.youngest? parent = some target)
    (container : arena.isContainer target = true) : (arena.relocate parent target).Quiet := by
  intro comment child isComment listed
  rw [isAuthorComment_congr (node?_relocate ..)] at isComment
  rw [isContainer_congr (node?_relocate ..)]
  rcases (rooted.mem_children_relocate youngest container _ _).1 listed with
    ⟨old, -⟩ | ⟨rfl, trailing⟩
  · exact quiet isComment old
  · exact isContainer_of_isBlank (isBlank_of_mem_trailing trailing)

/-! ## Nodes that stand -/

/-- A node that takes part in nesting. -/
structure Stands (arena : Arena) (id : Nat) : Prop where
  notRoot : id ≠ root
  stored : id < arena.size
  filled : arena.isBlank id = false
  outside : ¬ arena.InComment id

theorem stands_congr {id : Nat} (size : id < after.size ↔ id < arena.size)
    (same : after.isBlank id = arena.isBlank id)
    (inside : arena.isBlank id = false → (after.InComment id ↔ arena.InComment id)) :
    after.Stands id ↔ arena.Stands id := by
  constructor
  · rintro ⟨notRoot, stored, filled, outside⟩
    have filled := same ▸ filled
    exact ⟨notRoot, size.1 stored, filled, fun h => outside ((inside filled).2 h)⟩
  · rintro ⟨notRoot, stored, filled, outside⟩
    exact ⟨notRoot, size.2 stored, same ▸ filled, fun h => outside ((inside filled).1 h)⟩

section Append

variable (rooted : arena.Rooted) (quiet : arena.Quiet) (container : arena.isContainer parent = true)
  {node : Node} (suits : arena.isAuthorComment parent = true → node.content.isContainer = false)
include rooted quiet container suits

theorem stands_append {id : Nat} (stored : id < arena.size) :
    (arena.append parent node).2.Stands id ↔ arena.Stands id := by
  refine stands_congr ?_ (isBlank_congr (node?_append_of_lt stored ..)) fun _ => ?_
  · rw [size_append]
    omega
  rw [inComment_iff (quiet.append rooted container suits) (rooted.append container node),
    inComment_iff quiet rooted]
  refine exists_congr fun comment => ?_
  rw [mem_children_append container]
  constructor
  · rintro ⟨isComment, listed | ⟨-, fresh⟩⟩
    · have older := Nat.lt_trans (rooted.parent_lt listed) stored
      rw [isAuthorComment_congr (node?_append_of_lt older ..)] at isComment
      exact ⟨isComment, listed⟩
    · omega
  · rintro ⟨isComment, listed⟩
    have older := Nat.lt_trans (rooted.parent_lt listed) stored
    refine ⟨?_, .inl listed⟩
    rw [isAuthorComment_congr (node?_append_of_lt older ..)]
    exact isComment

/-- A new node stands if it is not blank and its container is no comment. -/
theorem stands_append_size :
    (arena.append parent node).2.Stands arena.size ↔
      node.content.isBlank = false ∧ arena.isAuthorComment parent = false := by
  have blank : (arena.append parent node).2.isBlank arena.size = node.content.isBlank := by
    simp [isBlank, content?]
  have parentComment : (arena.append parent node).2.isAuthorComment parent =
      arena.isAuthorComment parent :=
    isAuthorComment_congr (node?_append_of_lt (lt_size_of_isContainer container) ..)
  have inside := inComment_iff (quiet.append rooted container suits) (rooted.append container node)
    arena.size
  have listed : arena.size ∈ (arena.append parent node).2.children parent :=
    (mem_children_append container node _ _).2 (.inr ⟨rfl, rfl⟩)
  constructor
  · rintro ⟨-, -, filled, outside⟩
    refine ⟨blank ▸ filled, ?_⟩
    rw [← parentComment]
    exact Bool.eq_false_iff.2 fun isComment => outside (.body isComment listed)
  · rintro ⟨filled, notComment⟩
    refine ⟨?_, by simp, blank ▸ filled, fun within => ?_⟩
    · exact Nat.ne_of_gt rooted.size_pos
    · obtain ⟨comment, isComment, member⟩ := inside.1 within
      have same := (rooted.append container node).parent_unique member listed
      rw [same, parentComment, notComment] at isComment
      cases isComment

end Append

theorem stands_relocate (rooted : arena.Rooted) (aged : arena.Aged) (quiet : arena.Quiet)
    (youngest : arena.youngest? parent = some target)
    (container : arena.isContainer target = true) (id : Nat) :
    (arena.relocate parent target).Stands id ↔ arena.Stands id := by
  refine stands_congr (by rw [size_relocate]) (isBlank_congr (node?_relocate ..)) fun filled => ?_
  rw [inComment_iff (quiet.relocate rooted youngest container)
    (rooted.relocate youngest aged container), inComment_iff quiet rooted]
  refine exists_congr fun comment => ?_
  rw [isAuthorComment_congr (node?_relocate ..), rooted.mem_children_relocate youngest container]
  have stays : id ∉ arena.trailingBlanks parent := by
    intro trailing
    rw [isBlank_of_mem_trailing trailing] at filled
    cases filled
  simp [stays]

/-! ## Where a node belongs -/

/-- How many blanks the line of a node starts with. -/
def indentation (source : List Char) (arena : Arena) (id : NodeId) : Nat :=
  leadingBlanks ((physicalLine? source (arena.lineno id)).getD [])

theorem indentation_congr {id : Nat} (same : after.node? id = arena.node? id) :
    after.indentation source id = arena.indentation source id := by
  simp only [indentation, lineno_congr same]

/-- Of the nodes made before `child` that are indented less, `parent` is the last. -/
structure Encloses (source : List Char) (arena : Arena) (parent child : Nat) : Prop where
  stands : arena.Stands parent
  less : arena.indentation source parent < arena.indentation source child
  nearest : ∀ {other : Nat}, arena.Stands other → parent < other → other < child →
    arena.indentation source child ≤ arena.indentation source other

/-- `child` belongs below `parent`. -/
structure Fits (source : List Char) (arena : Arena) (parent child : Nat) : Prop where
  line : (physicalLine? source (arena.lineno child)).isSome = true
  rule : if arena.indentation source child = 0 then parent = root
    else arena.Encloses source parent child

/-- Whether a node belongs below another depends on the nodes up to it only. -/
theorem Fits.congr (fits : arena.Fits source parent child) (older : parent < child)
    (stored : child < arena.size)
    (nodes : ∀ {id : Nat}, id < arena.size → after.node? id = arena.node? id)
    (stands : ∀ {id : Nat}, id < arena.size → (after.Stands id ↔ arena.Stands id)) :
    after.Fits source parent child := by
  have same : after.indentation source child = arena.indentation source child :=
    indentation_congr (nodes stored)
  have parentStored := Nat.lt_trans older stored
  obtain ⟨line, rule⟩ := fits
  refine ⟨by rw [lineno_congr (nodes stored)]; exact line, ?_⟩
  rw [same]
  split
  · rename_i flush
    rwa [if_pos flush] at rule
  · rename_i indented
    rw [if_neg indented] at rule
    refine ⟨(stands parentStored).2 rule.stands, ?_, fun {other} otherStands after before => ?_⟩
    · rw [same, indentation_congr (nodes parentStored)]
      exact rule.less
    · have otherStored := Nat.lt_trans before stored
      rw [same, indentation_congr (nodes otherStored)]
      exact rule.nearest ((stands otherStored).1 otherStands) after before

end HamlTree.Arena
