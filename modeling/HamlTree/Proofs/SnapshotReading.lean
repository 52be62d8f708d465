import HamlTree.Proofs.Traversal
import HamlTree.Snapshot

/-!
# SnapshotReading -- a snapshot gives the tree back

A tree as a snapshot shows it is an `Exported` node: in its child list and in those of the nodes on its
line it has other such nodes in place of numbers. `Arena.exported` is what a node of an arena comes to
when all numbers are replaced in this way. Two things are left out: the numbers themselves, and where a
template's root stands (`Node.exported`).

`Snapshot.readNode` goes back from records to nodes. Fields are found by their names, and everything
about a node is read from the fields of its kind, so nothing is taken from where a field stands.
From the snapshot of an exportable arena it reads `arena.exported root` (`readNode_ofId`), so arenas with
the same snapshot have the same tree.

Reading goes upwards: each value is first read as a node and as a list of nodes (`Part`), whatever
field it stands in, and only then the record is looked at. That keeps the recursion on the value.
-/

set_option autoImplicit false

namespace HamlTree

theorem Keyword.ofWord?_word (keyword : Keyword) : ofWord? keyword.word.toList = some keyword := by
  cases keyword <;> rfl

/-! ## What a record can show -/

section Places

variable {α : Type}

/-- Where a content stands. The root of a template stands nowhere. -/
def Content.place (stamp : Stamp) : Content α → Stamp
  | .root => {}
  | _ => stamp

mutual

/-- A content without the place of a root on its own line. -/
def Content.exported : Content α → Content α
  | .element tag inline => .element tag inline.exported
  | content => content

/-- An inline node without the place of a root. -/
def Inline.exported : Inline α → Inline α
  | .none => .none
  | .node stamp content children => .node (content.place stamp) content.exported children

end

/-- A node without the place of a root. -/
def Node.exported (node : Node α) : Node α :=
  ⟨node.content.place node.stamp, node.content.exported⟩

end Places

/-- A node with the nodes of its child lists in place of their numbers. -/
inductive Exported where
  | node (node : Node Exported) (children : List Exported)
deriving Repr

namespace Arena

/-- A node and all below it, as far as records show them. -/
def exported (arena : Arena) (id : NodeId) : Exported :=
  arena.fold (fun node children => .node node.exported children) (.node ⟨{}, .blank⟩ []) id

end Arena

namespace Snapshot

/-! ## Fields -/

/-- The value of a field, and what it is as the record of a node or as a list of such records. -/
structure Part where
  value : Value
  node? : Option Exported
  nodes? : Option (List Exported)

namespace Part

/-- A text. -/
def text? (part : Part) : Option String :=
  match part.value with
  | .string text => some text
  | _ => none

/-- A text that may be missing. -/
def optionalText? (part : Part) : Option (Option String) :=
  match part.value with
  | .string text => some (some text)
  | .null => some none
  | _ => none

/-- A truth value. -/
def flag? (part : Part) : Option Bool :=
  match part.value with
  | .bool flag => some flag
  | _ => none

/-- A number. -/
def number? (part : Part) : Option Nat :=
  match part.value with
  | .number n => some n
  | _ => none

/-- The texts in a list, as long as there are no other values in it. -/
def textsOf? : List Value → Option (List String)
  | [] => some []
  | .string text :: rest => (textsOf? rest).map (text :: ·)
  | _ => none

/-- A list of texts. -/
def texts? (part : Part) : Option (List String) :=
  match part.value with
  | .list items => textsOf? items
  | _ => none

/-- A keyword that may be missing. -/
def keyword? (part : Part) : Option (Option Keyword) :=
  match part.value with
  | .string word => (Keyword.ofWord? word.toList).map some
  | .null => some none
  | _ => none

/-- The node on an element's own line. -/
def inline? (part : Part) : Option (Inline Exported) :=
  match part.value, part.node? with
  | .null, _ => some .none
  | _, some (.node node children) => some (.node node.stamp node.content children)
  | _, none => none

end Part

/-! ## Records -/

/-- The fields of a record by their names. -/
abbrev Parts := List (String × Part)

namespace Parts

/-- What a field is read as. -/
def get? {α : Type} (parts : Parts) (name : String) (read : Part → Option α) : Option α :=
  (parts.lookup name).bind read

/-- The content in the fields of a record of this kind. -/
def content? (parts : Parts) : String → Option (Content Exported)
  | "root" => some .root
  | "doctype" => return .doctype (← parts.get? "doctype" Part.text?)
  | "element" => do
    let tag : Tag :=
      { name := ← parts.get? "tag_name" Part.text?
        classes := ← parts.get? "static_class" Part.text?
        id := ← parts.get? "static_id" Part.text?
        attributes := ← parts.get? "attributes" Part.text?
        selfClosing := ← parts.get? "self_closing" Part.flag?
        nukesInner := ← parts.get? "nuke_inner_whitespace" Part.flag?
        nukesOuter := ← parts.get? "nuke_outer_whitespace" Part.flag? }
    return .element tag (← parts.get? "oneline_child" Part.inline?)
  | "script" =>
    return .script (← parts.get? "script" Part.text?) (← parts.get? "keyword" Part.keyword?)
      (← parts.get? "escape_html" Part.flag?) (← parts.get? "preserve" Part.flag?)
  | "silent_script" =>
    return .silentScript (← parts.get? "script" Part.text?) (← parts.get? "keyword" Part.keyword?)
      (← parts.get? "mid_block_keyword" Part.flag?)
  | "html_comment" =>
    return .htmlComment (← parts.get? "comment" Part.text?) (← parts.get? "conditional" Part.text?)
  | "haml_comment" => some .authorComment
  | "text" =>
    return .text (← parts.get? "text" Part.text?) (← parts.get? "escape_html" Part.flag?)
  | "filter" =>
    return .filter (← parts.get? "name" Part.text?) (← parts.get? "texts" Part.texts?)
  | "empty" => some .blank
  | _ => none

/-- Where the node of a record with this content stands. -/
def stamp? (parts : Parts) : Content Exported → Option Stamp
  | .root => some {}
  | _ => return ⟨← parts.get? "filename" Part.optionalText?, ← parts.get? "lineno" Part.number?⟩

/-- The children of the node of a record with this content. -/
def children? (parts : Parts) (content : Content Exported) : Option (List Exported) :=
  if content.isContainer then parts.get? "children" Part.nodes? else some []

/-- The node of a record. -/
def node? (parts : Parts) : Option Exported := do
  let content ← parts.content? (← parts.get? "type" Part.text?)
  return .node ⟨← parts.stamp? content, content⟩ (← parts.children? content)

end Parts

mutual

/-- The node that a value is the record of. -/
def readNode : Value → Option Exported
  | .record fields => (readParts fields).node?
  | _ => none

/-- The nodes that a list holds the records of. -/
def readNodes : Value → Option (List Exported)
  | .list items => readAll items
  | _ => none

/-- The nodes that these values are the records of. -/
def readAll : List Value → Option (List Exported)
  | [] => some []
  | value :: rest => (readNode value).bind fun node => (readAll rest).map (node :: ·)

/-- Each field read as whatever it can be. -/
def readParts : List (String × Value) → Parts
  | [] => []
  | (name, value) :: rest => (name, ⟨value, readNode value, readNodes value⟩) :: readParts rest

end

/-! ## Reading what was written -/

/-- What reading makes of the value of a field. -/
def part (value : Value) : Part :=
  ⟨value, readNode value, readNodes value⟩

theorem get?_readParts {α : Type} (name query : String) (value : Value)
    (rest : List (String × Value)) (read : Part → Option α) :
    Parts.get? (readParts ((name, value) :: rest)) query read =
      if query = name then read (part value) else Parts.get? (readParts rest) query read := by
  by_cases same : query = name
  · simp [Parts.get?, readParts, part, same]
  · have other : (query == name) = false := by simpa using same
    simp [Parts.get?, readParts, List.lookup_cons, other, same]

@[simp] theorem text?_part (text : String) : (part (.string text)).text? = some text := rfl

@[simp] theorem flag?_part (flag : Bool) : (part (.bool flag)).flag? = some flag := rfl

@[simp] theorem number?_part (n : Nat) : (part (.number n)).number? = some n := rfl

@[simp] theorem nodes?_part (items : List Value) : (part (.list items)).nodes? = readAll items := rfl

@[simp] theorem optionalText?_part (text : Option String) :
    (part (.ofOption text)).optionalText? = some text := by
  cases text <;> rfl

@[simp] theorem texts?_part (texts : List String) :
    (part (.ofStrings texts)).texts? = some texts := by
  have items : Part.textsOf? (texts.map Value.string) = some texts := by
    induction texts with
    | nil => rfl
    | cons text rest ih => simp [Part.textsOf?, ih]
  exact items

@[simp] theorem keyword?_part (keyword : Option Keyword) :
    (part (keywordValue keyword)).keyword? = some keyword := by
  cases keyword with
  | none => rfl
  | some keyword => exact congrArg (Option.map some) (Keyword.ofWord?_word keyword)

/-- Records that are read one by one are read as a list. -/
theorem readAll_map {record : NodeId → Value} {node : NodeId → Exported} {ids : List NodeId}
    (reads : ∀ id ∈ ids, readNode (record id) = some (node id)) :
    readAll (ids.map record) = some (ids.map node) := by
  induction ids with
  | nil => rfl
  | cons id rest ih =>
      have first := reads id List.mem_cons_self
      have others := ih fun other member => reads other (List.mem_cons_of_mem _ member)
      simp [readAll, first, others]

theorem readNode_element {values : List Value} {nodes : List Exported} {inline : Inline Value}
    {shown : Inline Exported} (below : readAll values = some nodes)
    (onLine : (part (ofInline inline)).inline? = some shown) (stamp : Stamp) (tag : Tag) :
    readNode (ofContent stamp values (.element tag inline)) =
      some (.node ⟨stamp, .element tag shown⟩ nodes) := by
  simp [ofContent, readNode, get?_readParts, below, onLine, Parts.node?, Parts.content?,
    Parts.stamp?, Parts.children?, Content.isContainer]

/-- A record with records in its child lists is read back as the node it was made from, with what those
are read as in its lists. -/
theorem readNode_ofContent {record : NodeId → Value} {node : NodeId → Exported} :
    ∀ (content : Content) (children : List NodeId) (stamp : Stamp), content.leavesBare = true →
      (content.isContainer = true ∨ children = []) →
      (∀ id ∈ children ++ content.listed, readNode (record id) = some (node id)) →
      readNode (ofContent stamp (children.map record) (content.map record)) =
        some (.node (Node.exported ⟨stamp, content.map node⟩) (children.map node))
  | .element tag .none, children, stamp, _, _, reads =>
      readNode_element (readAll_map fun id listed => reads id (List.mem_append_left _ listed)) rfl
        stamp tag
  | .element tag (.node inner content under), children, stamp, bare, _, reads => by
      have below := readAll_map fun id listed => reads id (List.mem_append_left _ listed)
      refine readNode_element below ?_ stamp tag
      obtain ⟨suits, bare⟩ := Bool.and_eq_true_iff.1 bare
      have container : content.isContainer = true ∨ under = [] := by simpa using suits
      have read := readNode_ofContent content under inner bare container fun id listed =>
        reads id (List.mem_append_right _ listed)
      have known : (part (ofContent inner (under.map record) (content.map record))).node? =
          some (.node (Node.exported ⟨inner, content.map node⟩) (under.map node)) := read
      change (part (ofContent inner (under.map record) (content.map record))).inline? = _
      rw [Part.inline?, known]
      cases content <;> rfl
  | .root, children, stamp, _, _, reads | .script .., children, stamp, _, _, reads
  | .silentScript .., children, stamp, _, _, reads | .htmlComment .., children, stamp, _, _, reads
  | .authorComment, children, stamp, _, _, reads => by
      have below := readAll_map fun id listed => reads id (List.mem_append_left _ listed)
      simp [ofContent, readNode, get?_readParts, below, Parts.node?, Parts.content?, Parts.stamp?,
        Parts.children?, Content.isContainer, Node.exported, Content.place, Content.exported,
        Content.map]
  | .doctype _, children, stamp, _, suits, _ | .text .., children, stamp, _, suits, _
  | .filter .., children, stamp, _, suits, _ | .blank, children, stamp, _, suits, _ => by
      obtain rfl : children = [] := by simpa [Content.isContainer] using suits
      simp [ofContent, readNode, get?_readParts, Parts.node?, Parts.content?, Parts.stamp?,
        Parts.children?, Content.isContainer, Node.exported, Content.place, Content.exported,
        Content.map]

end Snapshot

/-! ## Trees with the same snapshot -/

namespace Arena

open Snapshot

variable {arena : Arena}

theorem Exportable.exported_eq (exportable : arena.Exportable) {id : Nat} {node : Node}
    (found : arena.node? id = some node) :
    arena.exported id =
      .node (node.map arena.exported).exported ((arena.children id).map arena.exported) :=
  exportable.fold_eq found

/-- The record of a node is read as the node with all below it. -/
theorem Exportable.readNode_ofId (exportable : arena.Exportable) {id : Nat}
    (stored : id < arena.size) : readNode (ofId arena id) = some (arena.exported id) := by
  refine exportable.induction (motive := fun id => readNode (ofId arena id) = some (arena.exported id))
    (fun id node found reads => ?_) id stored
  have listed : ∀ child ∈ arena.children id ++ node.content.listed,
      readNode (ofId arena child) = some (arena.exported child) := by
    intro child member
    exact reads child ((mentions_iff found).2 member)
  rw [exportable.ofId_eq found, exportable.exported_eq found]
  exact readNode_ofContent node.content (arena.children id) node.stamp (exportable.linked found).bare
    (exportable.unfoldable.container_or_childless found) listed

/-- A snapshot is read as the tree below the root, with each number in a child list replaced by the node
stored under it and all below that one. So arenas with the same snapshot have the same tree: the same
kinds with the same fields, from the same lines of the same templates but for the roots, the same inline
nodes, and the same children in the same order, those of inline nodes included. Accepted templates have
such arenas. -/
theorem exported_eq_of_ofArena :
    (∀ arena : Arena, arena.Exportable →
      (∀ id node, arena.node? id = some node →
        ofId arena id = ofNode (node.map (ofId arena)) ((arena.children id).map (ofId arena)) ∧
          arena.exported id =
            .node (node.map arena.exported).exported ((arena.children id).map arena.exported)) ∧
        readNode (ofArena arena) = some (arena.exported root)) ∧
      (∀ arena other : Arena, arena.Exportable → other.Exportable →
        ofArena arena = ofArena other → arena.exported root = other.exported root) ∧
      ∀ source filename (arena : Arena),
        Template.parse source filename = .ok arena → arena.Exportable := by
  refine ⟨fun arena exportable => ⟨fun id node found => ?_, ?_⟩,
    fun arena other exportable otherExportable same => ?_,
    fun source filename arena accepted => Template.exportable_of_parse accepted⟩
  · exact ⟨exportable.ofId_eq found, exportable.exported_eq found⟩
  · exact exportable.readNode_ofId exportable.root_stored
  · have read : readNode (ofArena arena) = some (arena.exported root) :=
      exportable.readNode_ofId exportable.root_stored
    have otherRead : readNode (ofArena other) = some (other.exported root) :=
      otherExportable.readNode_ofId otherExportable.root_stored
    rw [same, otherRead] at read
    exact (Option.some.inj read).symm

/-- A text. -/
def word : Node :=
  ⟨⟨none, 3⟩, .text "a" true⟩

/-- A paragraph with the start of a block on its line, and a node below that. -/
def paragraph (below : NodeId) : Node :=
  ⟨⟨some "page", 2⟩,
    .element { name := "p" } (.node ⟨none, 2⟩ (.silentScript "if x" (some .ifBlock)) [below])⟩

/-- An arena with one paragraph, listed twice. -/
def listedTwice : Arena :=
  ((empty.push word).2.append root (paragraph 1)).2.attach root 2

/-- An arena with two paragraphs, each with a text of its own. -/
def copied : Arena :=
  ((((empty.push word).2.push word).2.append root (paragraph 1)).2.append root (paragraph 2)).2

theorem exported_eq_of_ofArena_copied :
    listedTwice.Exportable ∧ copied.Exportable ∧ listedTwice.size = 3 ∧ copied.size = 5 ∧
      ofArena listedTwice = ofArena copied ∧ listedTwice.exported root = copied.exported root := by
  have exportable : listedTwice.Exportable :=
    (((Edited.empty.push (by decide)).append (by decide) (by decide)).attach (by decide)
      (by decide)).exportable (deeplyAcyclic_of_ranks [2, 0, 1] (by decide))
  have otherExportable : copied.Exportable :=
    ((((Edited.empty.push (by decide)).push (by decide)).append (by decide) (by decide)).append
      (by decide) (by decide)).exportable (deeplyAcyclic_of_ranks [2, 0, 0, 1, 1] (by decide))
  have same : ofArena listedTwice = ofArena copied := by rfl
  exact ⟨exportable, otherExportable, by decide, by decide, same,
    exported_eq_of_ofArena.2.1 listedTwice copied exportable otherExportable same⟩

end Arena

end HamlTree
