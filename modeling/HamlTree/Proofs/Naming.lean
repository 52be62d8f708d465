import HamlTree.Proofs.FirstError
import HamlTree.Proofs.Mirroring

/-!
# Naming -- the name of a template is only a stamp

`Arena.named name` puts a name on every node of a tree but the root, and on the nodes that elements
have on their own lines. Reading a template under a name is reading it without one and then putting
the name on the tree, or on the error (`parse_named`): the name decides nothing.
-/

set_option autoImplicit false

namespace HamlTree

/-- The stamp with this name. -/
def Stamp.named (name : String) (stamp : Stamp) : Stamp :=
  { stamp with filename := some name }

/-- Nodes that are the same but for the name. -/
def Likeness.named (name : String) : Likeness where
  like node image := image = node.restamp (Stamp.named name)
  restamp := Stamp.named name
  alike {node image} named := by
    subst named
    exact node.content.alike_restamp (Stamp.named name)
  fresh _ := rfl

namespace Arena

/-- The tree with this name on every node but the root. -/
def named (name : String) (arena : Arena) : Arena :=
  ⟨arena.slots.mapIdx fun id slot =>
    if id = root then slot else { slot with node := slot.node.restamp (Stamp.named name) }⟩

variable {name : String} {arena other : Arena}

theorem node?_named (id : Nat) :
    (arena.named name).node? id =
      if id = root then arena.node? id
      else (arena.node? id).map (Node.restamp (Stamp.named name)) := by
  simp only [node?, named, Array.getElem?_mapIdx, Option.map_map]
  split
  · cases arena.slots[id]? <;> simp_all
  · cases arena.slots[id]? <;> simp_all

theorem children_named (id : Nat) : (arena.named name).children id = arena.children id := by
  simp only [children, named, Array.getElem?_mapIdx]
  cases arena.slots[id]? with
  | none => rfl
  | some slot =>
      dsimp only [Option.map_some]
      split <;> rfl

/-- A tree that mirrors another under a name is that tree, named. -/
theorem Mirrors.eq_named (mirrors : arena.Mirrors (.named name) other) :
    other = arena.named name := by
  refine ext_of_nodes (fun id => ?_) fun id => ?_
  · rw [node?_named]
    split
    · rename_i top
      rw [top]
      exact mirrors.sameRoot
    · rename_i below
      have related := mirrors.node? below
      generalize arena.node? id = mine, other.node? id = theirs at related
      cases related with
      | none => rfl
      | some like => exact congrArg some like
  · rw [children_named]
    exact mirrors.children id

end Arena

namespace Template

/-- At the start a template with a name and the same template without one are twins. -/
theorem State.twins_ofSource (source : List Char) (name : String) :
    State.Twins (.named name) (ofSource source none) (ofSource source (some name)) where
  arena := by
    refine ⟨rfl, rfl, fun {id} below => ?_, fun _ => rfl⟩
    have unused : Arena.empty.size ≤ id := Nat.pos_of_ne_zero below
    change Option.Rel _ (Arena.empty.node? id) (Arena.empty.node? id)
    rw [(Arena.node?_eq_none_iff _ _).2 unused]
    exact .none
  current := rfl
  stack := rfl
  stampAt _ := rfl
  position := rfl
  indent := .same _
  filter := rfl
  pending := rfl

/-- The error of a template without a name has no name. -/
theorem filename_of_parse {source : List Char} {error : SyntaxError}
    (rejected : parse source = .error error) : error.filename = none := by
  obtain ⟨last, cause, reached, more, fails, rfl⟩ := parse_error_cases rejected
  have unnamed := (State.step_error reached.placed more fails).2
  simp [Located.withFilename, unnamed]

/-- Under a name a template is accepted exactly if it is without one. Its tree is then the same with
the name on every node but the root, and its error is the same with the name on it. -/
theorem parse_named (source : List Char) (name : String) :
    parse source (some name) =
      match parse source with
      | .ok arena => .ok (arena.named name)
      | .error error => .error { error with filename := some name } := by
  rcases parse_twins .start .start (State.twins_ofSource source name) with
    ⟨arena, image, accepted, namedAccepted, mirrors⟩ | ⟨error, rejected, namedRejected⟩
  · rw [accepted, namedAccepted, mirrors.eq_named]
  · have unnamed : error.filename = none := by
      have := filename_of_parse rejected
      simpa [Located.withFilename] using this
    rw [rejected, namedRejected]
    simp only [Located.withFilename, unnamed, Option.none_or]

end Template

end HamlTree
