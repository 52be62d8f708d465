import HamlTree.Arena
import Mathlib.Data.List.DropRight

/-!
# ArenaLaws -- what a change of an arena does to what one can see of it

Looking at an arena is `size`, `node?` and `children`; everything else is read off these. A change
of a child list leaves nodes alone (`node?_updateChildren`), and storing a node leaves every child
list alone but the parent's, which grows by the new number (`children_append`).

The blank nodes at the end of a child list are its `trailingBlanks`, the children before them its
`keptChildren`, and the last of those is the `youngest?`, the node that a deeper line goes below.
`relocate` moves the trailing blanks of a node in front of the children of another one;
`children_relocate` says which list is which afterwards.
-/

set_option autoImplicit false

namespace HamlTree

open Text

theorem dropEndWhile_eq_rdropWhile {α : Type} (test : α → Bool) (items : List α) :
    dropEndWhile test items = items.rdropWhile test := rfl

/-- What is left after cutting does not end in something to be cut. -/
theorem of_getLast?_dropEndWhile {α : Type} {test : α → Bool} {items : List α} {item : α}
    (last : (dropEndWhile test items).getLast? = some item) : test item = false := by
  obtain ⟨before, split⟩ := List.getLast?_eq_some_iff.1 last
  rw [dropEndWhile_eq_rdropWhile] at split
  have nonempty : items.rdropWhile test ≠ [] := by simp [split]
  have stays := List.rdropWhile_last_not test items nonempty
  simpa [split] using stays

theorem rdropWhile_congr {α : Type} {test other : α → Bool} {items : List α}
    (same : ∀ item ∈ items, test item = other item) :
    items.rdropWhile test = items.rdropWhile other := by
  induction items using List.reverseRecOn with
  | nil => rfl
  | append_singleton items item ih =>
      rw [List.rdropWhile_concat, List.rdropWhile_concat, same item (by simp),
        ih fun item member => same item (List.mem_append_left _ member)]

namespace Arena

/-- The line of a node; the root and numbers not in use are on line 0. -/
def lineno (arena : Arena) (id : NodeId) : Nat :=
  ((arena.node? id).map (·.stamp.lineno)).getD 0

/-! ## Numbers in use -/

theorem node?_eq_none_iff (arena : Arena) (id : Nat) :
    arena.node? id = none ↔ arena.size ≤ id := by
  simp [node?, size]

theorem content?_eq_none_iff (arena : Arena) (id : Nat) :
    arena.content? id = none ↔ arena.size ≤ id := by
  simp [content?, node?_eq_none_iff]

theorem exists_node? {arena : Arena} {id : Nat} (stored : id < arena.size) :
    ∃ node, arena.node? id = some node := by
  rw [← Option.ne_none_iff_exists', Ne, node?_eq_none_iff]
  omega

theorem exists_content? {arena : Arena} {id : Nat} (stored : id < arena.size) :
    ∃ content, arena.content? id = some content := by
  rw [← Option.ne_none_iff_exists', Ne, content?_eq_none_iff]
  omega

theorem lt_size_of_content? {arena : Arena} {id : Nat} {content : Content}
    (found : arena.content? id = some content) : id < arena.size := by
  by_contra outside
  rw [(arena.content?_eq_none_iff id).2 (by omega)] at found
  cases found

theorem content?_of_node? {arena : Arena} {id : Nat} {node : Node}
    (found : arena.node? id = some node) : arena.content? id = some node.content := by
  rw [content?, found]
  rfl

theorem lt_size_of_node? {arena : Arena} {id : Nat} {node : Node}
    (found : arena.node? id = some node) : id < arena.size :=
  lt_size_of_content? (content?_of_node? found)

theorem lt_size_of_isContainer {arena : Arena} {id : Nat}
    (container : arena.isContainer id = true) : id < arena.size := by
  obtain ⟨content, found, -⟩ := (Option.any_eq_true _ _).1 container
  exact lt_size_of_content? found

theorem children_of_size_le {arena : Arena} {id : Nat} (unused : arena.size ≤ id) :
    arena.children id = [] := by
  have vacant : arena.slots[id]? = none := Array.getElem?_eq_none unused
  simp only [children, vacant]

/-- An arena is its nodes and its child lists. -/
theorem ext_of_nodes {arena other : Arena} (nodes : ∀ id, other.node? id = arena.node? id)
    (lists : ∀ id, other.children id = arena.children id) : other = arena := by
  suffices slots : other.slots = arena.slots by
    cases other
    cases arena
    exact congrArg Arena.mk slots
  apply Array.ext_getElem?
  intro id
  have node := nodes id
  have list := lists id
  unfold node? at node
  unfold children at list
  cases mine : arena.slots[id]? with
  | none => simpa [mine] using node
  | some slot =>
      obtain ⟨found, same, content⟩ := Option.map_eq_some_iff.1 (node.trans (by rw [mine]; rfl))
      rw [same, mine] at list
      rw [same]
      rcases found with ⟨_, _⟩
      rcases slot with ⟨_, _⟩
      cases content
      cases list
      rfl

/-! ## Changing a child list -/

@[simp] theorem size_updateChildren (arena : Arena) (id : Nat) (change : List NodeId → List NodeId) :
    (arena.updateChildren id change).size = arena.size := by
  unfold updateChildren
  split <;> simp [size]

@[simp] theorem node?_updateChildren (arena : Arena) (id : Nat)
    (change : List NodeId → List NodeId) (other : Nat) :
    (arena.updateChildren id change).node? other = arena.node? other := by
  unfold updateChildren
  split
  · simp only [node?, Array.getElem?_modify]
    split
    · cases arena.slots[other]? <;> rfl
    · rfl
  · rfl

theorem children_updateChildren {arena : Arena} {id : Nat}
    (container : arena.isContainer id = true) (change : List NodeId → List NodeId) (other : Nat) :
    (arena.updateChildren id change).children other =
      if other = id then change (arena.children id) else arena.children other := by
  have stored : id < arena.slots.size := lt_size_of_isContainer container
  simp only [updateChildren, container, if_true, children, Array.getElem?_modify]
  by_cases same : id = other
  · subst same
    simp [Array.getElem?_eq_getElem stored]
  · simp [same, Ne.symm same]

/-! ## Nodes stay as they are -/

/-- What is read off a node depends on the node alone. -/
theorem content?_congr {arena after : Arena} {id : Nat} (same : after.node? id = arena.node? id) :
    after.content? id = arena.content? id := by
  simp only [content?, same]

theorem isContainer_congr {arena after : Arena} {id : Nat}
    (same : after.node? id = arena.node? id) : after.isContainer id = arena.isContainer id := by
  simp only [isContainer, content?_congr same]

theorem isBlank_congr {arena after : Arena} {id : Nat}
    (same : after.node? id = arena.node? id) : after.isBlank id = arena.isBlank id := by
  simp only [isBlank, content?_congr same]

theorem isAuthorComment_congr {arena after : Arena} {id : Nat}
    (same : after.node? id = arena.node? id) :
    after.isAuthorComment id = arena.isAuthorComment id := by
  simp only [isAuthorComment, content?_congr same]

theorem lineno_congr {arena after : Arena} {id : Nat}
    (same : after.node? id = arena.node? id) : after.lineno id = arena.lineno id := by
  simp only [lineno, same]

/-! ## Storing a node -/

@[simp] theorem size_push (arena : Arena) (node : Node) :
    (arena.push node).2.size = arena.size + 1 := by
  simp [push, size]

theorem node?_push (arena : Arena) (node : Node) (id : Nat) :
    (arena.push node).2.node? id = if id = arena.size then some node else arena.node? id := by
  simp only [push, node?, size, Array.getElem?_push]
  by_cases fresh : id = arena.slots.size
  · simp [fresh]
  · simp [fresh]

/-- A node is stored without children, and nothing else changes. -/
@[simp] theorem children_push (arena : Arena) (node : Node) (id : Nat) :
    (arena.push node).2.children id = arena.children id := by
  simp only [push, children, Array.getElem?_push]
  by_cases fresh : id = arena.slots.size
  · simp [fresh]
  · simp [fresh]

theorem isContainer_push {arena : Arena} {id : Nat} (container : arena.isContainer id = true)
    (node : Node) : (arena.push node).2.isContainer id = true := by
  have stored := lt_size_of_isContainer container
  rw [← container]
  apply isContainer_congr
  rw [node?_push, if_neg (by omega)]

@[simp] theorem size_append (arena : Arena) (parent : Nat) (node : Node) :
    (arena.append parent node).2.size = arena.size + 1 := by
  simp [append, attach]

theorem node?_append (arena : Arena) (parent : Nat) (node : Node) (id : Nat) :
    (arena.append parent node).2.node? id =
      if id = arena.size then some node else arena.node? id := by
  simp only [append, attach, node?_updateChildren, node?_push]

theorem node?_append_of_lt {arena : Arena} {id : Nat} (stored : id < arena.size) (parent : Nat)
    (node : Node) : (arena.append parent node).2.node? id = arena.node? id := by
  rw [node?_append, if_neg (by omega)]

@[simp] theorem node?_append_size (arena : Arena) (parent : Nat) (node : Node) :
    (arena.append parent node).2.node? arena.size = some node := by
  rw [node?_append, if_pos rfl]

/-- The parent's list grows by the new number; the new node has no children yet. -/
theorem children_append {arena : Arena} {parent : Nat}
    (container : arena.isContainer parent = true) (node : Node) (id : Nat) :
    (arena.append parent node).2.children id =
      if id = parent then arena.children parent ++ [arena.size] else arena.children id := by
  change ((arena.push node).2.updateChildren parent (· ++ [arena.size])).children id = _
  rw [children_updateChildren (isContainer_push container node), children_push, children_push]

/-! ## Blank nodes at the end of a child list -/

/-- The children of a node up to the last one that is not blank. -/
def keptChildren (arena : Arena) (id : NodeId) : List NodeId :=
  dropEndWhile arena.isBlank (arena.children id)

/-- The blank nodes after the last child that is not blank. -/
def trailingBlanks (arena : Arena) (id : NodeId) : List NodeId :=
  (arena.children id).drop (arena.keptChildren id).length

/-- The last child that is not blank. -/
def youngest? (arena : Arena) (id : NodeId) : Option NodeId :=
  (arena.keptChildren id).getLast?

theorem kept_append_trailing (arena : Arena) (id : Nat) :
    arena.keptChildren id ++ arena.trailingBlanks id = arena.children id := by
  have initial : arena.keptChildren id <+: arena.children id := List.rdropWhile_prefix ..
  rw [trailingBlanks]
  conv_rhs => rw [← List.take_append_drop (arena.keptChildren id).length (arena.children id)]
  rw [← List.prefix_iff_eq_take.1 initial]

theorem isBlank_of_mem_trailing {arena : Arena} {id child : Nat}
    (trailing : child ∈ arena.trailingBlanks id) : arena.isBlank child = true := by
  have reversed : arena.trailingBlanks id =
      ((arena.children id).reverse.takeWhile arena.isBlank).reverse := by
    apply @List.append_cancel_left _ (arena.keptChildren id)
    rw [kept_append_trailing, keptChildren, dropEndWhile, ← List.reverse_append,
      List.takeWhile_append_dropWhile, List.reverse_reverse]
  rw [reversed, List.mem_reverse] at trailing
  exact List.mem_takeWhile_imp trailing

theorem mem_children_of_kept {arena : Arena} {id child : Nat}
    (kept : child ∈ arena.keptChildren id) : child ∈ arena.children id := by
  rw [← kept_append_trailing]
  exact List.mem_append_left _ kept

theorem mem_children_of_trailing {arena : Arena} {id child : Nat}
    (trailing : child ∈ arena.trailingBlanks id) : child ∈ arena.children id := by
  rw [← kept_append_trailing]
  exact List.mem_append_right _ trailing

theorem mem_kept_of_youngest? {arena : Arena} {id child : Nat}
    (youngest : arena.youngest? id = some child) : child ∈ arena.keptChildren id :=
  List.mem_of_getLast? youngest

theorem mem_children_of_youngest? {arena : Arena} {id child : Nat}
    (youngest : arena.youngest? id = some child) : child ∈ arena.children id :=
  mem_children_of_kept (mem_kept_of_youngest? youngest)

theorem isBlank_youngest? {arena : Arena} {id child : Nat}
    (youngest : arena.youngest? id = some child) : arena.isBlank child = false :=
  of_getLast?_dropEndWhile youngest

/-! ## Moving blank nodes -/

/-- Move the trailing blanks of `parent` in front of the children of `target`. -/
def relocate (arena : Arena) (parent target : NodeId) : Arena :=
  (arena.takeTrailingBlanks parent).2.prependChildren target (arena.takeTrailingBlanks parent).1

theorem takeTrailingBlanks_eq (arena : Arena) (id : Nat) :
    arena.takeTrailingBlanks id =
      (arena.trailingBlanks id, arena.updateChildren id fun _ => arena.keptChildren id) := rfl

@[simp] theorem size_relocate (arena : Arena) (parent target : Nat) :
    (arena.relocate parent target).size = arena.size := by
  simp [relocate, takeTrailingBlanks_eq, prependChildren]

@[simp] theorem node?_relocate (arena : Arena) (parent target id : Nat) :
    (arena.relocate parent target).node? id = arena.node? id := by
  simp [relocate, takeTrailingBlanks_eq, prependChildren]

theorem children_relocate {arena : Arena} {parent target : Nat}
    (parentContainer : arena.isContainer parent = true)
    (targetContainer : arena.isContainer target = true) (distinct : parent ≠ target) (id : Nat) :
    (arena.relocate parent target).children id =
      if id = parent then arena.keptChildren parent
      else if id = target then arena.trailingBlanks parent ++ arena.children target
      else arena.children id := by
  have container : (arena.updateChildren parent fun _ => arena.keptChildren parent).isContainer
      target = true := by
    rw [← targetContainer]
    exact isContainer_congr (node?_updateChildren ..)
  simp only [relocate, takeTrailingBlanks_eq, prependChildren]
  rw [children_updateChildren container, children_updateChildren parentContainer,
    children_updateChildren parentContainer]
  by_cases atTarget : id = target
  · simp [atTarget, Ne.symm distinct]
  · simp [atTarget]

end Arena

end HamlTree
