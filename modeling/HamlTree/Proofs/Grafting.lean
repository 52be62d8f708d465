import HamlTree.Proofs.Restamping
import HamlTree.Proofs.TreeGrowth

/-!
# Grafting -- a tree continued below the root of another

A template read on its own and the same template read behind another one yield the same nodes, with
other numbers and on later lines. `Stamp.later`, `Content.later` and `Node.later` move the lines;
where a line is said to stand has no influence on how it reads (`Line.read_later`).

`Arena.Grafted base arena whole offset` says that `whole` is `base` with the tree of `arena` grafted
onto its root: nodes other than the root are renumbered past those of `base` and moved `offset` lines
down, and the children of the root come after those that `base` has there. Both changes that reading
makes to a tree carry over from `arena` to `whole` (`Grafted.append`, `Grafted.relocate`). The second
moves blank nodes off the end of a child list, so at the root it needs the blank nodes of `base` to
stand behind a child of `arena` that is not blank, or not to be there at all.
-/

set_option autoImplicit false

namespace HamlTree

/-! ## Later lines -/

/-- The stamp of the line `offset` lines down. -/
def Stamp.later (offset : Nat) (stamp : Stamp) : Stamp :=
  { stamp with lineno := stamp.lineno + offset }

mutual

/-- The content with the node on its own line, if it has one, `offset` lines down. -/
def Content.later (offset : Nat) : Content → Content
  | .element tag inline => .element tag (inline.later offset)
  | content => content

/-- The node on an element's own line, `offset` lines down. -/
def Inline.later (offset : Nat) : Inline → Inline
  | .none => .none
  | .node stamp content children => .node (stamp.later offset) (content.later offset) children

end

/-- The node `offset` lines down. -/
def Node.later (offset : Nat) (node : Node) : Node :=
  ⟨node.stamp.later offset, node.content.later offset⟩

mutual

theorem Content.later_eq (offset : Nat) :
    ∀ content : Content, content.later offset = content.restamp (Stamp.later offset)
  | .element tag inline => by rw [Content.later, Content.restamp, Inline.later_eq offset inline]
  | .root | .doctype _ | .script .. | .silentScript .. | .htmlComment .. | .authorComment
  | .text .. | .filter .. | .blank => rfl

theorem Inline.later_eq (offset : Nat) :
    ∀ inline : Inline, inline.later offset = inline.restamp (Stamp.later offset)
  | .none => rfl
  | .node stamp content children => by
      rw [Inline.later, Inline.restamp, Content.later_eq offset content]

end

theorem Node.later_zero (node : Node) : node.later 0 = node := by
  rw [Node.later, Content.later_eq]
  exact node.restamp_id

namespace Content

variable (offset : Nat) (content : Content)

@[simp] theorem isBlank_later : (content.later offset).isBlank = content.isBlank := by
  rw [later_eq, isBlank_restamp]

@[simp] theorem isContainer_later : (content.later offset).isContainer = content.isContainer := by
  rw [later_eq, isContainer_restamp]

@[simp] theorem isAuthorComment_later :
    (content.later offset).isAuthorComment = content.isAuthorComment := by
  rw [later_eq, isAuthorComment_restamp]

@[simp] theorem nestingFault?_later :
    Template.nestingFault? (content.later offset) = Template.nestingFault? content := by
  rw [later_eq, nestingFault?_restamp]

end Content

/-! ## Reading on a later line -/

namespace Line

variable (offset : Nat)

/-- The meaning of the same line `offset` lines down. -/
def Meaning.later : Meaning → Meaning
  | .node content => .node (content.later offset)
  | meaning => meaning

theorem Meaning.later_eq (meaning : Meaning) :
    meaning.later offset = meaning.restamp (Stamp.later offset) := by
  cases meaning with
  | node content => rw [later, restamp, Content.later_eq]
  | filter name => rfl
  | nothing => rfl

/-- Where a line stands shows only in the stamps of what it reads as. -/
theorem read_later (stamp : Stamp) (text : List Char) (feed : Feed) :
    read (stamp.later offset) text feed =
      Reading.map (Meaning.later offset) (read stamp text feed) := by
  rw [funext (Meaning.later_eq offset)]
  exact read_restamp (Stamp.later offset) stamp text feed

end Line

/-! ## Grafts -/

theorem rdropWhile_map {α β : Type} (change : α → β) (test : β → Bool) (items : List α) :
    (items.map change).rdropWhile test = (items.rdropWhile (test ∘ change)).map change := by
  simp [List.rdropWhile, ← List.map_reverse, List.dropWhile_map]

theorem rdropWhile_append_of_ne_nil {α : Type} {test : α → Bool} {front back : List α}
    (left : back.rdropWhile test ≠ []) :
    (front ++ back).rdropWhile test = front ++ back.rdropWhile test := by
  have rest : (back.reverse.dropWhile test).isEmpty = false := by
    simpa [List.rdropWhile] using left
  rw [List.rdropWhile, List.reverse_append, List.dropWhile_append, if_neg (by simp [rest]),
    List.reverse_append, List.reverse_reverse, List.rdropWhile]

namespace Arena

/-- The number that a node gets where it is stored behind the nodes of `base`. The root is shared. -/
def renumber (base : Arena) : Nat → Nat
  | 0 => root
  | id + 1 => base.size + id

/-- The children that `base` contributes to the list of node `id` of a graft. -/
def stem (base : Arena) : Nat → List NodeId
  | 0 => base.children root
  | _ + 1 => []

/-- `whole` is `base` with the tree of `arena` grafted onto its root, `offset` lines down. -/
structure Grafted (base arena whole : Arena) (offset : Nat) : Prop where
  nonempty : root < base.size
  size : whole.size + 1 = base.size + arena.size
  sameRoot : arena.node? root = base.node? root
  node?_old : ∀ {id : Nat}, id < base.size → whole.node? id = base.node? id
  node?_new : ∀ id : Nat,
    whole.node? (base.size + id) = (arena.node? (id + 1)).map (Node.later offset)
  children_old : ∀ {id : Nat}, 0 < id → id < base.size → whole.children id = base.children id
  children_new : ∀ id : Nat,
    whole.children (base.renumber id) = base.stem id ++ (arena.children id).map base.renumber

theorem renumber_injective {base : Arena} (nonempty : root < base.size) :
    Function.Injective base.renumber := by
  have positive : 0 < base.size := nonempty
  intro first second same
  cases first <;> cases second <;> simp only [renumber, root] at same <;> omega

/-- A number of `base` other than the root's belongs to no node grafted onto it. -/
theorem ne_renumber {base : Arena} {id other : Nat} (positive : 0 < id) (old : id < base.size) :
    id ≠ base.renumber other := by
  cases other with
  | zero => exact Nat.ne_of_gt positive
  | succ other => exact Nat.ne_of_lt (Nat.lt_of_lt_of_le old (Nat.le_add_right ..))

theorem renumber_empty (id : Nat) : empty.renumber id = id := by
  cases id with
  | zero => rfl
  | succ id => exact Nat.add_comm 1 id

theorem stem_empty (id : Nat) : empty.stem id = [] := by
  cases id with
  | zero => rfl
  | succ id => rfl

namespace Grafted

/-- An empty tree grafted onto another leaves that as it is. -/
theorem onto {base : Arena} (sameRoot : empty.node? root = base.node? root) (offset : Nat)
    (nonempty : root < base.size) : Grafted base empty base offset where
  nonempty := nonempty
  size := rfl
  sameRoot := sameRoot
  node?_old _ := rfl
  node?_new id := by
    have unused : empty.size ≤ id + 1 := Nat.le_add_left ..
    rw [(node?_eq_none_iff base _).2 (Nat.le_add_right ..), (node?_eq_none_iff empty _).2 unused]
    rfl
  children_old _ _ := rfl
  children_new id := by
    rw [children_empty, List.map_nil, List.append_nil]
    cases id with
    | zero => rfl
    | succ id => exact children_of_size_le (Nat.le_add_right ..)

/-- A tree grafted onto an empty one stays as it is. -/
theorem eq_of_empty {arena whole : Arena} (grafted : Grafted empty arena whole 0) :
    whole = arena := by
  refine ext_of_nodes (fun id : Nat => ?_) fun id => ?_
  · cases id with
    | zero => exact (grafted.node?_old grafted.nonempty).trans grafted.sameRoot.symm
    | succ id =>
        rw [Nat.add_comm]
        refine (grafted.node?_new id).trans ?_
        rw [Nat.add_comm 1 id]
        cases arena.node? (id + 1) with
        | none => rfl
        | some node => exact congrArg some node.later_zero
  · have same := grafted.children_new id
    have unchanged : empty.renumber = fun id => id := funext renumber_empty
    rw [stem_empty, unchanged, List.map_id'] at same
    exact same

section

variable {base arena whole : Arena} {offset : Nat} (grafted : Grafted base arena whole offset)
  (rooted : arena.Rooted)
include grafted rooted

theorem renumber_size : base.renumber arena.size = whole.size := by
  have size := grafted.size
  have positive : 0 < arena.size := rooted.size_pos
  obtain ⟨count, same⟩ : ∃ count, arena.size = count + 1 := ⟨arena.size - 1, by omega⟩
  rw [same, renumber]
  omega

theorem content?_renumber (id : Nat) :
    whole.content? (base.renumber id) = (arena.content? id).map (Content.later offset) := by
  cases id with
  | zero =>
      have same : whole.node? root = arena.node? root :=
        (grafted.node?_old grafted.nonempty).trans grafted.sameRoot.symm
      rw [renumber, content?_congr same]
      exact (congrArg (Option.map _) rooted.content_root).symm ▸ rooted.content_root
  | succ id =>
      simp only [renumber, content?, grafted.node?_new, Option.map_map]
      rfl

theorem isBlank_renumber (id : Nat) : whole.isBlank (base.renumber id) = arena.isBlank id := by
  rw [isBlank, grafted.content?_renumber rooted, isBlank]
  cases arena.content? id with
  | none => rfl
  | some content => exact Content.isBlank_later offset content

theorem isContainer_renumber (id : Nat) :
    whole.isContainer (base.renumber id) = arena.isContainer id := by
  rw [isContainer, grafted.content?_renumber rooted, isContainer]
  cases arena.content? id with
  | none => rfl
  | some content => exact Content.isContainer_later offset content

theorem isAuthorComment_renumber (id : Nat) :
    whole.isAuthorComment (base.renumber id) = arena.isAuthorComment id := by
  rw [isAuthorComment, grafted.content?_renumber rooted, isAuthorComment]
  cases arena.content? id with
  | none => rfl
  | some content => exact Content.isAuthorComment_later offset content

theorem append {parent : Nat} (container : arena.isContainer parent = true) (node : Node) :
    Grafted base (arena.append parent node).2
      (whole.append (base.renumber parent) (node.later offset)).2 offset := by
  have size := grafted.size
  have positive : 0 < arena.size := rooted.size_pos
  have wholeContainer : whole.isContainer (base.renumber parent) = true :=
    (grafted.isContainer_renumber rooted parent).trans container
  refine ⟨grafted.nonempty, ?_, ?_, fun {id} old => ?_, fun id => ?_, fun {id} later old => ?_,
    fun id => ?_⟩
  · rw [size_append, size_append]
    omega
  · rw [node?_append_of_lt rooted.size_pos]
    exact grafted.sameRoot
  · rw [node?_append_of_lt (by omega)]
    exact grafted.node?_old old
  · rw [node?_append, node?_append, grafted.node?_new]
    by_cases fresh : id + 1 = arena.size
    · rw [if_pos fresh, if_pos (by omega)]
      rfl
    · rw [if_neg fresh, if_neg (by omega)]
  · rw [children_append wholeContainer, if_neg (ne_renumber later old)]
    exact grafted.children_old later old
  · rw [children_append wholeContainer, children_append container, grafted.children_new,
      grafted.children_new, ← grafted.renumber_size rooted]
    by_cases same : id = parent
    · subst same
      simp
    · rw [if_neg same, if_neg fun equal => same (renumber_injective grafted.nonempty equal)]

section Relocate

variable {parent : Nat} (anchored : base.stem parent = [] ∨ arena.youngest? parent ≠ none)
include anchored

/-- The blank nodes at the end of a child list are the same ones. -/
theorem keptChildren_renumber :
    whole.keptChildren (base.renumber parent) =
      base.stem parent ++ (arena.keptChildren parent).map base.renumber := by
  have grown : ((arena.children parent).map base.renumber).rdropWhile whole.isBlank =
      (arena.keptChildren parent).map base.renumber := by
    rw [rdropWhile_map, keptChildren, dropEndWhile_eq_rdropWhile]
    congr 1
    exact rdropWhile_congr fun child _ => grafted.isBlank_renumber rooted child
  rw [keptChildren, dropEndWhile_eq_rdropWhile, grafted.children_new]
  rcases anchored with bare | found
  · rw [bare, List.nil_append, List.nil_append, grown]
  · rw [rdropWhile_append_of_ne_nil, grown]
    rw [grown]
    intro none
    rw [List.map_eq_nil_iff] at none
    exact found (by rw [youngest?, none]; rfl)

theorem trailingBlanks_renumber :
    whole.trailingBlanks (base.renumber parent) =
      (arena.trailingBlanks parent).map base.renumber := by
  rw [trailingBlanks, trailingBlanks, grafted.keptChildren_renumber rooted anchored,
    grafted.children_new, List.length_append, List.length_map, ← List.drop_drop, List.drop_left,
    List.map_drop]

theorem youngest?_renumber :
    whole.youngest? (base.renumber parent) = (arena.youngest? parent).map base.renumber := by
  rw [youngest?, grafted.keptChildren_renumber rooted anchored, List.getLast?_append,
    List.getLast?_map]
  change ((arena.youngest? parent).map base.renumber).or _ = _
  rcases anchored with bare | found
  · rw [bare, List.getLast?_nil, Option.or_none]
  · obtain ⟨target, youngest⟩ := Option.ne_none_iff_exists'.1 found
    rw [youngest]
    rfl

end Relocate

theorem relocate {parent target : Nat} (youngest : arena.youngest? parent = some target)
    (container : arena.isContainer target = true) :
    Grafted base (arena.relocate parent target)
      (whole.relocate (base.renumber parent) (base.renumber target)) offset := by
  have anchored : base.stem parent = [] ∨ arena.youngest? parent ≠ none :=
    .inr (by rw [youngest]; exact Option.some_ne_none _)
  have parentContainer := rooted.container (mem_children_of_youngest? youngest)
  have distinct := rooted.parent_ne_youngest youngest
  have lists := @Arena.children_relocate whole (base.renumber parent) (base.renumber target)
    ((grafted.isContainer_renumber rooted parent).trans parentContainer)
    ((grafted.isContainer_renumber rooted target).trans container)
    fun same => distinct (renumber_injective grafted.nonempty same)
  refine ⟨grafted.nonempty, ?_, ?_, fun {id} old => ?_, fun id => ?_, fun {id} later old => ?_,
    fun id => ?_⟩
  · rw [size_relocate, size_relocate]
    exact grafted.size
  · rw [node?_relocate]
    exact grafted.sameRoot
  · rw [node?_relocate]
    exact grafted.node?_old old
  · rw [node?_relocate, node?_relocate]
    exact grafted.node?_new id
  · rw [lists, if_neg (ne_renumber later old), if_neg (ne_renumber later old)]
    exact grafted.children_old later old
  · rw [lists, rooted.children_relocate youngest container]
    by_cases atParent : id = parent
    · subst atParent
      rw [if_pos rfl, if_pos rfl]
      exact grafted.keptChildren_renumber rooted anchored
    rw [if_neg atParent, if_neg fun same => atParent (renumber_injective grafted.nonempty same)]
    by_cases atTarget : id = target
    · subst atTarget
      have younger := rooted.parent_lt (mem_children_of_youngest? youngest)
      obtain ⟨count, rfl⟩ : ∃ count, id = count + 1 := ⟨id - 1, by omega⟩
      rw [if_pos rfl, if_pos rfl, grafted.trailingBlanks_renumber rooted anchored,
        grafted.children_new, List.map_append]
      rfl
    · rw [if_neg atTarget, if_neg fun same => atTarget (renumber_injective grafted.nonempty same)]
      exact grafted.children_new id

end

end Grafted

/-! ## Trees with something in them -/

/-- The root has a child that is not blank. -/
def Topped (arena : Arena) : Prop :=
  ∃ child ∈ arena.children root, arena.isBlank child = false

section Topped

variable {arena : Arena} {parent target : Nat}

theorem Topped.youngest?_ne_none (topped : arena.Topped) : arena.youngest? root ≠ none := by
  obtain ⟨child, listed, solid⟩ := topped
  intro none
  have kept : arena.keptChildren root = [] := List.getLast?_eq_none_iff.1 none
  have trailing : child ∈ arena.trailingBlanks root := by
    have whole := arena.kept_append_trailing root
    rw [kept, List.nil_append] at whole
    exact whole ▸ listed
  rw [isBlank_of_mem_trailing trailing] at solid
  cases solid

theorem Topped.append (topped : arena.Topped) (rooted : arena.Rooted)
    (container : arena.isContainer parent = true) (node : Node) :
    (arena.append parent node).2.Topped := by
  obtain ⟨child, listed, solid⟩ := topped
  refine ⟨child, (mem_children_append container node _ _).2 (.inl listed), ?_⟩
  rw [isBlank_congr (node?_append_of_lt (rooted.stored listed) parent node)]
  exact solid

theorem topped_append (container : arena.isContainer root = true) {node : Node}
    (solid : node.content.isBlank = false) : (arena.append root node).2.Topped := by
  refine ⟨arena.size, (mem_children_append container node _ _).2 (.inr ⟨rfl, rfl⟩), ?_⟩
  simpa [isBlank, content?] using solid

theorem Topped.relocate (topped : arena.Topped) (rooted : arena.Rooted)
    (youngest : arena.youngest? parent = some target)
    (container : arena.isContainer target = true) : (arena.relocate parent target).Topped := by
  obtain ⟨child, listed, solid⟩ := topped
  refine ⟨child, (rooted.mem_children_relocate youngest container _ _).2 (.inl ⟨listed, ?_⟩), ?_⟩
  · intro _ trailing
    rw [isBlank_of_mem_trailing trailing] at solid
    cases solid
  · rw [isBlank_congr (node?_relocate ..)]
    exact solid

end Topped

end Arena

end HamlTree
