import HamlTree.Proofs.LegalNesting
import HamlTree.Proofs.Unfolding

/-!
# Folding -- what is made of a node and all below it

`Arena.fold` makes a value of a node from the values of the nodes that it `Mentions`: those on its child
list and those on the child lists of its inline nodes. An arena is `Exportable` if all these lists lead
from containers to stored nodes and no way along them comes back to where it started. In such an arena
the bound on the depth never shows, and `fold` obeys the equation that one would define it by
(`Exportable.fold_eq`). What holds of a node as soon as it holds of the nodes it mentions holds of every
node (`Exportable.induction`).

The inline nodes of an accepted template have no children, so they add no mentions to those of the tree
(`Template.exportable_of_parse`).
-/

set_option autoImplicit false

namespace HamlTree

/-! ## Contents with something else in their lists -/

section Map

variable {α β : Type} {f g : α → β}

mutual

theorem Content.map_congr : ∀ content : Content α, (∀ item ∈ content.listed, f item = g item) →
    content.map f = content.map g
  | .element tag inline, same => by rw [Content.map, Content.map, Inline.map_congr inline same]
  | .root, _ | .doctype _, _ | .script .., _ | .silentScript .., _ | .htmlComment .., _
  | .authorComment, _ | .text .., _ | .filter .., _ | .blank, _ => rfl

theorem Inline.map_congr : ∀ inline : Inline α, (∀ item ∈ inline.listed, f item = g item) →
    inline.map f = inline.map g
  | .none, _ => rfl
  | .node stamp content children, same => by
      have inner := Content.map_congr content fun item member =>
        same item (List.mem_append_right _ member)
      have outer := List.map_congr_left fun item member =>
        same item (List.mem_append_left _ member)
      rw [Inline.map, Inline.map, inner, outer]

end

@[simp] theorem Content.isContainer_map (content : Content α) :
    (content.map f).isContainer = content.isContainer := by
  cases content <;> rfl

end Map

/-! ## Lists that lead from containers to stored nodes -/

section Linked

variable {α : Type}

mutual

/-- On the line of an element only containers have children. -/
def Content.leavesBare : Content α → Bool
  | .element _ inline => inline.leavesBare
  | _ => true

/-- Among inline nodes only containers have children. -/
def Inline.leavesBare : Inline α → Bool
  | .none => true
  | .node _ content children => (content.isContainer || children.isEmpty) && content.leavesBare

end

end Linked

/-- The child lists in a content lead from containers to numbers below `size`. -/
structure Content.Linked (content : Content) (size : Nat) : Prop where
  bare : content.leavesBare = true
  stored : ∀ child ∈ content.listed, child < size

instance (content : Content) (size : Nat) : Decidable (content.Linked size) :=
  decidable_of_iff (content.leavesBare = true ∧ ∀ child ∈ content.listed, child < size)
    ⟨fun ⟨bare, stored⟩ => ⟨bare, stored⟩, fun ⟨bare, stored⟩ => ⟨bare, stored⟩⟩

theorem Content.Linked.mono {content : Content} {size larger : Nat} (linked : content.Linked size)
    (fits : size ≤ larger) : content.Linked larger :=
  ⟨linked.bare, fun child listed => Nat.lt_of_lt_of_le (linked.stored child listed) fits⟩

/-- What a line yields lists nothing. -/
theorem Content.Proper.lists_nothing {content : Content} (proper : content.Proper) :
    content.listed = [] ∧ content.leavesBare = true := by
  cases content with
  | element tag inline =>
      cases inline with
      | none => exact ⟨rfl, rfl⟩
      | node stamp output children =>
          obtain ⟨puts, rfl⟩ := proper.2 stamp output children rfl
          obtain ⟨_, _, rfl⟩ | ⟨_, _, _, _, rfl⟩ := puts
          · exact ⟨rfl, rfl⟩
          · exact ⟨rfl, rfl⟩
  | _ => exact ⟨rfl, rfl⟩

namespace Arena

variable {arena : Arena}

/-- The nodes on the child lists of a node's inline nodes. -/
def inlineChildren (arena : Arena) (id : NodeId) : List NodeId :=
  match arena.node? id with
  | some node => node.content.listed
  | none => []

/-- `child` stands on the list of `parent`, or on that of a node on its line. -/
def Mentions (arena : Arena) (parent child : NodeId) : Prop :=
  child ∈ arena.children parent ++ arena.inlineChildren parent

/-- No way along the child lists, those of inline nodes included, comes back to where it started. -/
def DeeplyAcyclic (arena : Arena) : Prop :=
  ∀ id, ¬ Relation.TransGen arena.Mentions id id

/-- The child lists of inline nodes lead from containers to stored nodes. -/
structure InlineLinked (arena : Arena) : Prop where
  linked : ∀ {id : Nat} {node : Node}, arena.node? id = some node → node.content.Linked arena.size

/-- All child lists lead from containers to stored nodes, and never back. -/
structure Exportable (arena : Arena) : Prop extends arena.WellLinked, arena.InlineLinked where
  acyclic : arena.DeeplyAcyclic

theorem mem_inlineChildren {parent child : Nat} : child ∈ arena.inlineChildren parent ↔
    ∃ node, arena.node? parent = some node ∧ child ∈ node.content.listed := by
  unfold inlineChildren
  cases found : arena.node? parent with
  | none => simp
  | some node => simp

theorem mentions_iff {parent child : Nat} {node : Node} (found : arena.node? parent = some node) :
    arena.Mentions parent child ↔ child ∈ arena.children parent ++ node.content.listed := by
  rw [Mentions, inlineChildren, found]

theorem Lists.mentions {parent child : Nat} (listed : arena.Lists parent child) :
    arena.Mentions parent child :=
  List.mem_append_left _ listed

/-- Ranks given as a list, to be checked for the nodes that are stored. -/
theorem deeplyAcyclic_of_ranks (ranks : List Nat)
    (drops : ∀ parent < arena.size, ∀ child ∈ arena.children parent ++ arena.inlineChildren parent,
      ranks.getD child 0 < ranks.getD parent 0) : arena.DeeplyAcyclic := by
  refine not_transGen_self_of_drops (fun id => ranks.getD id 0) fun {parent child} mentioned => ?_
  refine drops parent ?_ child mentioned
  by_contra outside
  have vacant := (node?_eq_none_iff arena parent).2 (Nat.le_of_not_lt outside)
  rw [Mentions, children_of_size_le (Nat.le_of_not_lt outside), inlineChildren, vacant] at mentioned
  cases mentioned

/-! ## One step of a fold -/

section Step

variable {α : Type} {make : Node α → List α → α} {missing : α} {id : Nat} {node : Node}

theorem foldTo_succ (found : arena.node? id = some node) (depth : Nat) :
    arena.foldTo make missing (depth + 1) id =
      make (node.map (arena.foldTo make missing depth))
        ((arena.children id).map (arena.foldTo make missing depth)) := by
  unfold node? at found
  rw [foldTo, children]
  cases occupied : arena.slots[id]? with
  | none => rw [occupied] at found; cases found
  | some slot =>
      rw [occupied] at found
      cases found
      rfl

theorem foldTo_of_size_le (unused : arena.size ≤ id) (depth : Nat) :
    arena.foldTo make missing depth id = missing := by
  have vacant : arena.slots[id]? = none := Array.getElem?_eq_none unused
  cases depth with
  | zero => rfl
  | succ depth => rw [foldTo, vacant]

/-- What a stored node is folded to is made of the node itself. -/
theorem exists_fold_eq (found : arena.node? id = some node) (make : Node α → List α → α)
    (missing : α) :
    ∃ below children, arena.fold make missing id = make (node.map below) children := by
  have stored := lt_size_of_node? found
  obtain ⟨depth, size⟩ : ∃ depth, arena.size = depth + 1 := ⟨arena.size - 1, by omega⟩
  rw [fold, size, foldTo_succ found]
  exact ⟨_, _, rfl⟩

/-- A step looks at nothing but the nodes mentioned. -/
theorem map_congr_of_mentions {f g : NodeId → α} (found : arena.node? id = some node)
    (same : ∀ child, arena.Mentions id child → f child = g child) :
    node.map f = node.map g ∧ (arena.children id).map f = (arena.children id).map g := by
  constructor
  · have inline : ∀ child ∈ node.content.listed, f child = g child := fun child listed =>
      same child ((mentions_iff found).2 (List.mem_append_right _ listed))
    rw [Node.map, Node.map, Content.map_congr node.content inline]
  · exact List.map_congr_left fun child listed => same child (Lists.mentions listed)

end Step

/-! ## Folds of whole arenas -/

namespace Exportable

theorem stored_of_mentions (exportable : arena.Exportable) {parent child : Nat}
    (mentioned : arena.Mentions parent child) : child < arena.size := by
  rcases List.mem_append.1 mentioned with listed | inline
  · exact exportable.stored listed
  · obtain ⟨node, found, within⟩ := mem_inlineChildren.1 inline
    exact (exportable.linked found).stored child within

/-- The number of nodes below a node drops along every mention. -/
theorem countBelow_lt (exportable : arena.Exportable) {parent child : Nat}
    (mentioned : arena.Mentions parent child) :
    arena.countBelow arena.Mentions child < arena.countBelow arena.Mentions parent :=
  Arena.countBelow_lt exportable.acyclic mentioned (exportable.stored_of_mentions mentioned)

/-- A property of nodes that a node has if all nodes it mentions have it. -/
theorem induction {motive : NodeId → Prop} (exportable : arena.Exportable)
    (step : ∀ (id : NodeId) (node : Node), arena.node? id = some node →
      (∀ child, arena.Mentions id child → motive child) → motive id)
    (id : NodeId) (stored : id < arena.size) : motive id := by
  induction known : arena.countBelow arena.Mentions id using Nat.strongRecOn generalizing id with
  | _ n ih =>
      obtain ⟨node, found⟩ := exists_node? stored
      refine step id node found fun child mentioned => ?_
      exact ih _ (known ▸ exportable.countBelow_lt mentioned) child
        (exportable.stored_of_mentions mentioned) rfl

theorem unfoldable (exportable : arena.Exportable) : arena.Unfoldable where
  toWellLinked := exportable.toWellLinked
  acyclic id way := exportable.acyclic id (Relation.TransGen.mono (fun _ _ => Lists.mentions) _ _ way)

variable {α : Type} {make : Node α → List α → α} {missing : α}

/-- Beyond the number of nodes below a node, more depth changes nothing. -/
theorem foldTo_stable (exportable : arena.Exportable) (depth more id : Nat)
    (enough : arena.countBelow arena.Mentions id < depth)
    (enoughMore : arena.countBelow arena.Mentions id < more) :
    arena.foldTo make missing depth id = arena.foldTo make missing more id := by
  induction depth generalizing more id with
  | zero => omega
  | succ depth ih =>
      obtain ⟨more, rfl⟩ : ∃ less, more = less + 1 := ⟨more - 1, by omega⟩
      by_cases stored : id < arena.size
      · obtain ⟨node, found⟩ := exists_node? stored
        have below : ∀ child, arena.Mentions id child →
            arena.foldTo make missing depth child = arena.foldTo make missing more child := by
          intro child mentioned
          have drops := exportable.countBelow_lt mentioned
          exact ih more child (by omega) (by omega)
        obtain ⟨onLine, under⟩ := map_congr_of_mentions found below
        rw [foldTo_succ found, foldTo_succ found, onLine, under]
      · have unused := Nat.le_of_not_lt stored
        rw [foldTo_of_size_le unused, foldTo_of_size_le unused]

/-- A fold is made of the node with the folds of the nodes in its lists. -/
theorem fold_eq (exportable : arena.Exportable) {id : Nat} {node : Node}
    (found : arena.node? id = some node) :
    arena.fold make missing id =
      make (node.map (arena.fold make missing))
        ((arena.children id).map (arena.fold make missing)) := by
  have stored := lt_size_of_node? found
  obtain ⟨depth, size⟩ : ∃ depth, arena.size = depth + 1 := ⟨arena.size - 1, by omega⟩
  have below : ∀ child, arena.Mentions id child →
      arena.foldTo make missing depth child = arena.fold make missing child := by
    intro child mentioned
    have drops := exportable.countBelow_lt mentioned
    have bound := countBelow_lt_size exportable.acyclic stored
    exact exportable.foldTo_stable depth arena.size child (by omega) (by omega)
  obtain ⟨onLine, under⟩ := map_congr_of_mentions found below
  rw [← onLine, ← under, fold, size, foldTo_succ found]

end Exportable

end Arena

/-- An accepted template is stored in an exportable arena. -/
theorem Template.exportable_of_parse {source : List Char} {filename : Option String}
    {arena : Arena} (accepted : parse source filename = .ok arena) : arena.Exportable := by
  have unfoldable := unfoldable_of_parse accepted
  have bare : ∀ {id : Nat} {node : Node}, arena.node? id = some node →
      node.content.listed = [] ∧ node.content.leavesBare = true := by
    intro id node found
    have known := Arena.content?_of_node? found
    by_cases isRoot : id = Arena.root
    · rw [isRoot, (rooted_of_parse accepted).content_root] at known
      rw [← Option.some.inj known]
      exact ⟨rfl, rfl⟩
    · exact ((legal_of_parse accepted).proper isRoot known).lists_nothing
  have same : ∀ parent child, arena.Mentions parent child → arena.Lists parent child := by
    intro parent child mentioned
    rcases List.mem_append.1 mentioned with listed | inline
    · exact listed
    · obtain ⟨node, found, within⟩ := Arena.mem_inlineChildren.1 inline
      rw [(bare found).1] at within
      cases within
  refine ⟨unfoldable.toWellLinked, ⟨fun {id node} found => ?_⟩, fun id way => ?_⟩
  · refine ⟨(bare found).2, fun child listed => ?_⟩
    rw [(bare found).1] at listed
    cases listed
  · exact unfoldable.acyclic id (Relation.TransGen.mono same _ _ way)

end HamlTree
