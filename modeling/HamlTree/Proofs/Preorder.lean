import HamlTree.Tree
import HamlTree.Proofs.ArenaLaws
import Mathlib.Data.List.Flatten
import Mathlib.Data.List.Nodup

/-!
# Preorder -- the walk of an arena whose child lists have no cycle

`Arena.below id` lists the nodes from `id` down, each before those below it. A `RankedBy` arena has
a number for each node that drops along every child list, so unfolding ends (`unfold_eq`), `below`
obeys the recursive equation `below_eq`, and the walk with its stack of numbers is `below root`
(`walk_eq_below`), however much fuel beyond its length it has (`visit_eq_below`).

`Rooted` says that the child lists are one tree: a child is younger than its parent, no number
stands in two places, and every stored number but the root's stands somewhere. The walk then meets
every stored node once (`Rooted.walk_perm_range`).

The walk is in order of creation if every child list is and the lines from parents to children do
not cross when the nodes are drawn in a row (`Planar`, `Rooted.walk_eq_range`), and only if every
child list is (`Rooted.pairwise_children_of_walk`).
-/

set_option autoImplicit false

namespace HamlTree.Arena

/-! ## Unfolding -/

/-- The numbers of the nodes from `id` down, each before those below it. -/
def below (arena : Arena) (id : NodeId) : List NodeId :=
  ((arena.unfold id).map Tree.preorder).getD []

/-- `rank` drops along every child list, and child lists name only stored nodes. -/
structure RankedBy (arena : Arena) (rank : Nat → Nat) : Prop where
  child_lt : ∀ {parent child : Nat}, child ∈ arena.children parent → rank child < rank parent
  stored : ∀ {parent child : Nat}, child ∈ arena.children parent → child < arena.size
  lt_size : ∀ {id : Nat}, id < arena.size → rank id < arena.size

theorem preorderAll_filterMap (unfolded : NodeId → Option Tree) (ids : List NodeId) :
    Tree.preorderAll (ids.filterMap unfolded) =
      ids.flatMap fun id => ((unfolded id).map Tree.preorder).getD [] := by
  induction ids with
  | nil => rfl
  | cons id rest ih =>
      cases found : unfolded id with
      | none => simp [found, ih]
      | some tree => simp [found, ih, Tree.preorderAll]

section Ranked

variable {arena : Arena} {rank : Nat → Nat}

/-- Beyond a node's rank, more depth changes nothing. -/
theorem unfoldTo_stable (ranked : arena.RankedBy rank) (depth more id : Nat)
    (enough : rank id < depth) (enoughMore : rank id < more) :
    arena.unfoldTo depth id = arena.unfoldTo more id := by
  induction depth generalizing more id with
  | zero => omega
  | succ depth ih =>
      cases more with
      | zero => omega
      | succ more =>
          simp only [unfoldTo]
          cases occupied : arena.slots[id]? with
          | none => rfl
          | some slot =>
              have same : slot.children.filterMap (arena.unfoldTo depth) =
                  slot.children.filterMap (arena.unfoldTo more) := by
                apply List.filterMap_congr
                intro child member
                have drops : rank child < rank id :=
                  ranked.child_lt (by simpa [children, occupied] using member)
                exact ih more child (by omega) (by omega)
              simp [same]

/-- The tree below a node has the trees below its children in it. -/
theorem unfold_eq (ranked : arena.RankedBy rank) (id : Nat) :
    arena.unfold id =
      (arena.node? id).map fun node => .node id node ((arena.children id).filterMap arena.unfold) := by
  by_cases stored : id < arena.size
  · obtain ⟨depth, size_eq⟩ : ∃ depth, arena.size = depth + 1 := ⟨arena.size - 1, by omega⟩
    have occupied : arena.slots[id]? = some (arena.slots[id]) := Array.getElem?_eq_getElem stored
    have list : arena.children id = arena.slots[id].children := by simp [children, occupied]
    have deeper : (arena.children id).filterMap (arena.unfoldTo depth) =
        (arena.children id).filterMap arena.unfold := by
      apply List.filterMap_congr
      intro child member
      have drops := ranked.child_lt member
      have bounded := ranked.lt_size stored
      exact unfoldTo_stable ranked depth arena.size child (by omega) (by omega)
    rw [← deeper, unfold, size_eq, unfoldTo, node?, occupied, list]
    rfl
  · have vacant : arena.slots[id]? = none := Array.getElem?_eq_none (Nat.le_of_not_lt stored)
    rw [(node?_eq_none_iff arena id).2 (by omega), unfold]
    cases arena.size with
    | zero => rfl
    | succ depth => rw [unfoldTo, vacant]; rfl

/-- A node stands before the nodes below its children, taken in turn. -/
theorem below_eq (ranked : arena.RankedBy rank) {id : Nat} (stored : id < arena.size) :
    arena.below id = id :: (arena.children id).flatMap arena.below := by
  obtain ⟨node, found⟩ := exists_node? stored
  rw [below, unfold_eq ranked, found]
  simp only [Option.map_some, Option.getD_some, Tree.preorder, preorderAll_filterMap]
  rfl

theorem mem_below_iff (ranked : arena.RankedBy rank) {id : Nat} (stored : id < arena.size)
    (other : Nat) :
    other ∈ arena.below id ↔ other = id ∨ ∃ child ∈ arena.children id, other ∈ arena.below child := by
  rw [below_eq ranked stored, List.mem_cons, List.mem_flatMap]

/-- Below a node are the node itself and the children of what is below it. -/
theorem below_perm (ranked : arena.RankedBy rank) {id : Nat} (stored : id < arena.size) :
    (arena.below id).Perm (id :: (arena.below id).flatMap arena.children) := by
  -- by induction on the rank: the lists of the children's own subtrees come apart by `ih`
  induction known : rank id using Nat.strongRecOn generalizing id with
  | _ n ih =>
      have inner : ∀ ids : List Nat, (∀ child ∈ ids, child ∈ arena.children id) →
          (ids.flatMap arena.below).Perm
            (ids ++ (ids.flatMap arena.below).flatMap arena.children) := by
        intro ids
        induction ids with
        | nil => intro _; exact .nil
        | cons child rest restIh =>
            intro members
            have member := members child List.mem_cons_self
            have first := ih (rank child) (by have := ranked.child_lt member; omega)
              (ranked.stored member) rfl
            have others := restIh fun other h => members other (List.mem_cons_of_mem _ h)
            simp only [List.flatMap_cons, List.flatMap_append, List.cons_append]
            refine (first.append others).trans ?_
            simp only [List.cons_append]
            refine List.Perm.cons child ?_
            rw [← List.append_assoc, ← List.append_assoc]
            exact List.Perm.append_right _ List.perm_append_comm
      rw [below_eq ranked stored, List.flatMap_cons]
      exact List.Perm.cons id (inner _ fun _ h => h)

theorem below_sublist (ranked : arena.RankedBy rank) {id other : Nat} (stored : id < arena.size)
    (member : other ∈ arena.below id) : (arena.below other).Sublist (arena.below id) := by
  induction known : rank id using Nat.strongRecOn generalizing id with
  | _ n ih =>
      rcases (mem_below_iff ranked stored other).1 member with rfl | ⟨child, listed, deeper⟩
      · exact List.Sublist.refl _
      · have lower := ih (rank child) (by have := ranked.child_lt listed; omega)
          (ranked.stored listed) deeper rfl
        have within : (arena.below child).Sublist ((arena.children id).flatMap arena.below) := by
          simpa using (List.singleton_sublist.2 listed).flatMap arena.below
        rw [below_eq ranked stored]
        exact (lower.trans within).cons id

theorem children_sublist_below (ranked : arena.RankedBy rank) {id : Nat}
    (stored : id < arena.size) : (arena.children id).Sublist (arena.below id) := by
  have heads : ((arena.children id).flatMap fun child => [child]).Sublist
      ((arena.children id).flatMap arena.below) := by
    apply List.Sublist.flatMap_right
    intro child listed
    rw [below_eq ranked (ranked.stored listed)]
    simp
  rw [below_eq ranked stored]
  exact (by simpa using heads : (arena.children id).Sublist _).cons id

/-! ## The walk -/

/-- The walk deals with the top of its stack by listing what is below it. -/
theorem visit_cons (ranked : arena.RankedBy rank) {id : Nat} (stored : id < arena.size)
    (fuel : Nat) (stack : List NodeId) (enough : (arena.below id).length ≤ fuel) :
    arena.visit fuel (id :: stack) =
      arena.below id ++ arena.visit (fuel - (arena.below id).length) stack := by
  induction known : rank id using Nat.strongRecOn generalizing id fuel stack with
  | _ n ih =>
      have inner : ∀ (ids : List Nat) (fuel : Nat), (∀ child ∈ ids, child ∈ arena.children id) →
          (ids.flatMap arena.below).length ≤ fuel →
          arena.visit fuel (ids ++ stack) = ids.flatMap arena.below ++
            arena.visit (fuel - (ids.flatMap arena.below).length) stack := by
        intro ids
        induction ids with
        | nil => intro fuel _ _; simp
        | cons child rest restIh =>
            intro fuel members enough
            have member := members child List.mem_cons_self
            simp only [List.flatMap_cons, List.length_append] at enough
            rw [List.cons_append,
              ih (rank child) (by have := ranked.child_lt member; omega) (ranked.stored member)
                fuel (rest ++ stack) (by omega) rfl,
              restIh _ (fun other h => members other (List.mem_cons_of_mem _ h)) (by omega)]
            simp only [List.flatMap_cons, List.append_assoc, List.length_append]
            rw [Nat.sub_sub]
      rw [below_eq ranked stored] at enough ⊢
      simp only [List.length_cons] at enough
      obtain ⟨rest, fuel_eq⟩ : ∃ rest, fuel = rest + 1 := ⟨fuel - 1, by omega⟩
      subst fuel_eq
      rw [visit, inner _ rest (fun _ h => h) (by omega)]
      simp only [List.length_cons, List.cons_append]
      rw [Nat.add_sub_add_right]

/-- Enough fuel walks through everything below the root, and more fuel through nothing else. -/
theorem visit_eq_below (ranked : arena.RankedBy rank) (stored : root < arena.size) (fuel : Nat)
    (enough : (arena.below root).length ≤ fuel) :
    arena.visit fuel [root] = arena.below root := by
  rw [visit_cons ranked stored fuel [] enough]
  cases fuel - (arena.below root).length <;> simp [visit]

theorem walk_eq_below (ranked : arena.RankedBy rank) (stored : root < arena.size) :
    arena.walk = arena.below root := by
  apply visit_eq_below ranked stored
  have nonempty : arena.below root ≠ [] := by rw [below_eq ranked stored]; simp
  cases unfolded : arena.unfold root with
  | none => simp [below, unfolded] at nonempty
  | some tree => simp [below, unfolded, Arena.tree, Tree.size]

end Ranked

/-! ## One tree -/

/-- The child lists are one tree, whose nodes were made from the root down. -/
structure Rooted (arena : Arena) : Prop where
  content_root : arena.content? root = some .root
  parent_lt : ∀ {parent child : Nat}, child ∈ arena.children parent → parent < child
  stored : ∀ {parent child : Nat}, child ∈ arena.children parent → child < arena.size
  nodup : ∀ parent : Nat, (arena.children parent).Nodup
  parent_unique : ∀ {parent other child : Nat}, child ∈ arena.children parent →
    child ∈ arena.children other → parent = other
  attached : ∀ {child : Nat}, 0 < child → child < arena.size → ∃ parent : Nat,
    child ∈ arena.children parent
  container : ∀ {parent child : Nat}, child ∈ arena.children parent →
    arena.isContainer parent = true

namespace Rooted

variable {arena : Arena}

theorem size_pos (rooted : arena.Rooted) : root < arena.size :=
  lt_size_of_content? rooted.content_root

/-- The younger a node, the lower it ranks. -/
theorem ranked (rooted : arena.Rooted) : arena.RankedBy fun id => arena.size - 1 - id where
  child_lt listed := by
    have := rooted.parent_lt listed
    have := rooted.stored listed
    omega
  stored := rooted.stored
  lt_size := by omega

/-- How often a number stands in the child lists of some nodes is how often its parent is among
them. -/
theorem count_flatMap_children (rooted : arena.Rooted) {parent child : Nat}
    (listed : child ∈ arena.children parent) (ids : List Nat) :
    (ids.flatMap arena.children).count child = ids.count parent := by
  induction ids with
  | nil => rfl
  | cons id rest ih =>
      rw [List.flatMap_cons, List.count_append, List.count_cons, ih]
      by_cases same : id = parent
      · subst same
        rw [List.nodup_iff_count_eq_one.1 (rooted.nodup _) child listed]
        simp [Nat.add_comm]
      · rw [List.count_eq_zero_of_not_mem fun h => same (rooted.parent_unique h listed)]
        simp [same]

theorem count_root (rooted : arena.Rooted) (ids : List Nat) :
    (ids.flatMap arena.children).count root = 0 := by
  apply List.count_eq_zero_of_not_mem
  intro listed
  obtain ⟨parent, -, member⟩ := List.mem_flatMap.1 listed
  exact Nat.not_lt_zero _ (rooted.parent_lt member)

/-- By induction from the root: a number is met as often as its parent is. -/
theorem count_below_root (rooted : arena.Rooted) {id : Nat} (stored : id < arena.size) :
    (arena.below root).count id = 1 := by
  induction id using Nat.strongRecOn with
  | _ id ih =>
      rw [(below_perm rooted.ranked rooted.size_pos).count_eq, List.count_cons]
      by_cases first : id = 0
      · subst first
        rw [show (0 : Nat) = root from rfl, rooted.count_root]
        simp
      · obtain ⟨parent, listed⟩ := rooted.attached (by omega) stored
        have older := rooted.parent_lt listed
        rw [rooted.count_flatMap_children listed, ih parent older (by omega)]
        simp [root, Ne.symm first]

theorem lt_size_of_mem_below (rooted : arena.Rooted) {id : Nat}
    (member : id ∈ arena.below root) : id < arena.size := by
  have split := (below_perm rooted.ranked rooted.size_pos).mem_iff.1 member
  rcases List.mem_cons.1 split with rfl | listed
  · exact rooted.size_pos
  · obtain ⟨parent, -, child⟩ := List.mem_flatMap.1 listed
    exact rooted.stored child

theorem below_root_perm_range (rooted : arena.Rooted) :
    (arena.below root).Perm (List.range arena.size) := by
  have nodup : (arena.below root).Nodup := by
    rw [List.nodup_iff_count]
    intro id
    by_cases stored : id < arena.size
    · exact Nat.le_of_eq (rooted.count_below_root stored)
    · rw [List.count_eq_zero_of_not_mem fun h => stored (rooted.lt_size_of_mem_below h)]
      omega
  refine (List.perm_ext_iff_of_nodup nodup List.nodup_range).2 fun id => ?_
  rw [List.mem_range]
  refine ⟨rooted.lt_size_of_mem_below, fun stored => ?_⟩
  rw [← List.count_pos_iff, rooted.count_below_root stored]
  omega

/-- The walk meets every stored node once. -/
theorem walk_perm_range (rooted : arena.Rooted) :
    arena.walk.Perm (List.range arena.size) := by
  rw [walk_eq_below rooted.ranked rooted.size_pos]
  exact rooted.below_root_perm_range

end Rooted

/-! ## Walking in order of creation -/

/-- With the nodes drawn in a row, no line from a parent to a child crosses another. -/
def Planar (arena : Arena) : Prop :=
  ∀ {parent child inner below : Nat}, child ∈ arena.children parent →
    below ∈ arena.children inner → parent < inner → inner < child → below < child

namespace Rooted

variable {arena : Arena}

theorem le_of_mem_below (rooted : arena.Rooted) {id other : Nat} (stored : id < arena.size)
    (member : other ∈ arena.below id) : id ≤ other := by
  induction known : arena.size - id using Nat.strongRecOn generalizing id with
  | _ n ih =>
      rcases (mem_below_iff rooted.ranked stored other).1 member with rfl | ⟨child, listed, deeper⟩
      · exact Nat.le_refl _
      · have older := rooted.parent_lt listed
        have childStored := rooted.stored listed
        have := ih (arena.size - child) (by omega) childStored deeper rfl
        omega

/-- What is below a node is older than every younger sibling of an ancestor-or-self. -/
theorem lt_of_mem_below (rooted : arena.Rooted) (planar : arena.Planar)
    {parent later id other : Nat} (listed : later ∈ arena.children parent)
    (stored : id < arena.size) (after : parent < id) (before : id < later)
    (member : other ∈ arena.below id) : other < later := by
  induction known : arena.size - id using Nat.strongRecOn generalizing id with
  | _ n ih =>
      rcases (mem_below_iff rooted.ranked stored other).1 member with rfl | ⟨child, inner, deeper⟩
      · exact before
      · have older := rooted.parent_lt inner
        have childStored := rooted.stored inner
        exact ih (arena.size - child) (by omega) childStored (by omega)
          (planar listed inner after before) deeper rfl

theorem pairwise_below (rooted : arena.Rooted) (planar : arena.Planar)
    (sorted : ∀ parent : Nat, (arena.children parent).Pairwise (· < ·)) {id : Nat}
    (stored : id < arena.size) : (arena.below id).Pairwise (· < ·) := by
  induction known : arena.size - id using Nat.strongRecOn generalizing id with
  | _ n ih =>
      rw [below_eq rooted.ranked stored, List.pairwise_cons, List.pairwise_flatMap]
      refine ⟨fun other member => ?_, fun child listed => ?_, ?_⟩
      · obtain ⟨child, listed, deeper⟩ := List.mem_flatMap.1 member
        exact Nat.lt_of_lt_of_le (rooted.parent_lt listed)
          (rooted.le_of_mem_below (rooted.stored listed) deeper)
      · have older := rooted.parent_lt listed
        have childStored := rooted.stored listed
        exact ih (arena.size - child) (by omega) childStored rfl
      · refine (sorted id).imp_of_mem fun {first second} firstIn secondIn before => ?_
        intro left leftIn right rightIn
        exact Nat.lt_of_lt_of_le
          (rooted.lt_of_mem_below planar secondIn (rooted.stored firstIn)
            (rooted.parent_lt firstIn) before leftIn)
          (rooted.le_of_mem_below (rooted.stored secondIn) rightIn)

theorem walk_eq_range_of_pairwise (rooted : arena.Rooted)
    (increasing : arena.walk.Pairwise (· < ·)) : arena.walk = List.range arena.size := by
  refine List.Perm.eq_of_pairwise ?_ increasing List.pairwise_lt_range rooted.walk_perm_range
  intro left right _ _ leftLt rightLt
  exact absurd leftLt (Nat.lt_asymm rightLt)

/-- The walk is in order of creation if every child list is. -/
theorem walk_eq_range (rooted : arena.Rooted) (planar : arena.Planar)
    (sorted : ∀ parent : Nat, (arena.children parent).Pairwise (· < ·)) :
    arena.walk = List.range arena.size := by
  have increasing := rooted.pairwise_below planar sorted rooted.size_pos
  rw [← walk_eq_below rooted.ranked rooted.size_pos] at increasing
  exact rooted.walk_eq_range_of_pairwise increasing

/-- A walk in order of creation shows every child list to be in that order. -/
theorem pairwise_children_of_walk (rooted : arena.Rooted)
    (increasing : arena.walk.Pairwise (· < ·)) (parent : Nat) :
    (arena.children parent).Pairwise (· < ·) := by
  by_cases stored : parent < arena.size
  · have member : parent ∈ arena.below root := by
      rw [rooted.below_root_perm_range.mem_iff, List.mem_range]
      exact stored
    rw [walk_eq_below rooted.ranked rooted.size_pos] at increasing
    exact increasing.sublist ((children_sublist_below rooted.ranked stored).trans
      (below_sublist rooted.ranked rooted.size_pos member))
  · rw [children_of_size_le (by omega)]
    exact .nil

end Rooted

end HamlTree.Arena
