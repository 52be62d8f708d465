import HamlTree.Drawing
import HamlTree.Proofs.LogicalLine
import HamlTree.Proofs.RoseTrees
import HamlTree.Proofs.Traversal
import HamlTree.Snapshot

/-!
# DrawingReading -- a drawing shows the shape of its tree

What can be read off a line of a drawing is how deep its node is, which kind it is and, if lines are
numbered, its number: a `Mark` at a depth. The label says nothing for sure, as it may be any text,
is cut, and loses white space at its end.

`readLine` finds the mark. The line of the root starts with an icon; every other line starts with
the number, or with the pairs of characters that its depth is counted by. Those end in a corner or a
branch, and neither they nor the icon behind is white space, so nothing in front of the label is
lost when the line is trimmed (`trimEnd_append_cons`). The lines of a drawing are the nodes of the
walk, one each (`forall₂_readLine_lines`), and as the rows of a tree determine it, drawings with the
same text are of trees with the same shape.
-/

set_option autoImplicit false

namespace HamlTree.Drawing

open Text

/-! ## Reading a line -/

/-- What a line shows of its node: its kind, and the number if there is one. -/
structure Mark where
  kind : String
  lineno? : Option Nat
deriving DecidableEq, Repr

/-- The icons and their kinds. -/
def kinds : List (Char × String) :=
  [('⧉', "root"), ('‼', "doctype"), ('⊞', "element"), ('=', "script"), ('−', "silent_script"),
   ('⁄', "html_comment"), ('♯', "haml_comment"), ('◦', "text"), ('ƒ', "filter"), ('∅', "empty")]

/-- The kind with this icon. -/
def kindOf? (icon : Char) : Option String :=
  List.lookup icon kinds

/-- How deep a node is and its icon, from its line behind the number. -/
def readBranch (depth : Nat) : List Char → Option (Nat × Char)
  | '└' :: '─' :: ' ' :: icon :: _ => some (depth + 1, icon)
  | '├' :: '─' :: ' ' :: icon :: _ => some (depth + 1, icon)
  | _ :: ' ' :: rest => readBranch (depth + 1) rest
  | _ => none

/-- The number at the start of a line, and what stands behind the blank after it. -/
def readNumber (line : List Char) : Nat × List Char :=
  (Nat.ofDigitChars 10 (line.takeWhile (· != ' ')) 0, (line.dropWhile (· != ' ')).drop 1)

/-- The depth and the mark of a node below the root. -/
def readNodeLine (numbered : Bool) (line : List Char) : Option (Nat × Mark) :=
  let (lineno?, branch) :=
    if numbered then (some (readNumber line).1, (readNumber line).2) else (none, line)
  (readBranch 0 branch).bind fun (depth, icon) =>
    (kindOf? icon).map fun kind => (depth, ⟨kind, lineno?⟩)

/-- The depth and the mark of a line. -/
def readLine (numbered : Bool) (line : List Char) : Option (Nat × Mark) :=
  match (line.head?).bind kindOf? with
  | some kind => some (0, ⟨kind, none⟩)
  | none => readNodeLine numbered line

/-- The depths and marks of a drawing, line by line. -/
def read (numbered : Bool) (text : List Char) : List (Nat × Mark) :=
  (cutAt '\n' text).dropLast.filterMap (readLine numbered)

/-- What is drawn of a node at this depth. -/
def mark (numbered : Bool) (depth : Nat) (_ : NodeId) (node : Node) : Mark :=
  ⟨node.content.typeName, if numbered && depth != 0 then some (shownLineno node) else none⟩

/-! ## The pieces of a line -/

theorem kindOf?_icon (content : Content) : kindOf? (icon content) = some content.typeName := by
  cases content <;> rfl

theorem isSpace_icon (content : Content) : isSpace (icon content) = false := by
  cases content <;> rfl

theorem kindOf?_of_isDigit {c : Char} (digit : c.isDigit = true) : kindOf? c = none := by
  rw [kindOf?, List.lookup_eq_none_iff]
  intro entry member
  have plain : entry.1.isDigit = false := by
    revert entry
    decide
  rw [bne_iff_ne]
  rintro rfl
  rw [plain] at digit
  cases digit

/-- Trimming stops at the last character that is not white space. -/
theorem trimEnd_append_cons (front rest : List Char) {c : Char} (solid : isSpace c = false) :
    trimEnd (front ++ c :: rest) = front ++ c :: trimEnd rest := by
  simp only [trimEnd, dropEndWhile, List.reverse_append, List.reverse_cons, List.dropWhile_append,
    List.append_assoc]
  cases rest.reverse.dropWhile isSpace <;> simp [solid]

/-- Bars for this many nodes. -/
inductive IsBars : Nat → List Char → Prop where
  | none : IsBars 0 []
  | deeper {depth : Nat} {bars : List Char} (outer : IsBars depth bars) (isLast : Bool) :
      IsBars (depth + 1) (barsBelow bars isLast)

theorem IsBars.readBranch_append {depth : Nat} {bars : List Char} (isBars : IsBars depth bars)
    (start : Nat) (rest : List Char) :
    readBranch start (bars ++ rest) = readBranch (start + depth) rest := by
  induction isBars generalizing start rest with
  | none => rfl
  | deeper outer isLast ih =>
      rw [barsBelow, List.append_assoc, ih]
      cases isLast <;> rfl

/-- The corner or the branch before an icon. -/
def connector (isLast : Bool) : List Char :=
  if isLast then ['└', '─'] else ['├', '─']

theorem readBranch_connector (depth : Nat) (isLast : Bool) (icon : Char) (rest : List Char) :
    readBranch depth (connector isLast ++ ' ' :: icon :: rest) = some (depth + 1, icon) := by
  cases isLast <;> rfl

theorem IsBars.eq_of_mem {depth : Nat} {bars : List Char} (isBars : IsBars depth bars) {c : Char}
    (member : c ∈ bars) : c = ' ' ∨ c = '│' := by
  induction isBars with
  | none => cases member
  | deeper outer isLast ih =>
      rcases List.mem_append.1 member with before | pair
      · exact ih before
      · cases isLast <;> simp at pair <;> tauto

/-! ## Numbers -/

theorem lineNumber_eq (n : Nat) :
    ∃ digits, lineNumber n = digits ++ [' '] ∧ digits ≠ [] ∧ (∀ c ∈ digits, c.isDigit = true) ∧
      Nat.ofDigitChars 10 digits 0 = n := by
  refine ⟨List.replicate (2 - n.repr.toList.length) '0' ++ n.repr.toList, rfl, ?_, ?_, ?_⟩
  · simp [Nat.toList_repr, Nat.toDigits_ne_nil]
  · intro c member
    rcases List.mem_append.1 member with padding | digit
    · rw [List.eq_of_mem_replicate padding]
      rfl
    · rw [Nat.toList_repr] at digit
      exact Nat.isDigit_of_mem_toDigits (by decide) (by decide) digit
  · rw [Nat.ofDigitChars_append, Nat.ofDigitChars_replicate_zero, Nat.toList_repr]
    simp

theorem readNumber_append (n : Nat) (rest : List Char) :
    readNumber (lineNumber n ++ rest) = (n, rest) := by
  obtain ⟨digits, written, -, each, value⟩ := lineNumber_eq n
  have stops : ∀ c ∈ digits, (c != ' ') = true := by
    intro c member
    have digit := each c member
    rw [bne_iff_ne]
    rintro rfl
    cases digit
  rw [readNumber, written, List.append_assoc, List.takeWhile_append_of_pos stops,
    List.dropWhile_append_of_pos stops]
  simp [value]

/-! ## Lines and their nodes -/

variable {numbered : Bool} {depth : Nat} {bars : List Char}

/-- Nothing up to the icon is lost when a line is trimmed. -/
theorem nodeLine_eq (numbered : Bool) (bars : List Char) (isLast : Bool) (node : Node) :
    nodeLine numbered bars isLast node =
      (if numbered then lineNumber (shownLineno node) else []) ++
        (bars ++ (connector isLast ++ ' ' :: icon node.content ::
          trimEnd (' ' :: shorten labelWidth (label node.content)))) := by
  have cut := trimEnd_append_cons
    ((if numbered then lineNumber (shownLineno node) else []) ++ (bars ++ (connector isLast ++ [' '])))
    (' ' :: shorten labelWidth (label node.content)) (isSpace_icon node.content)
  simpa [nodeLine, connector] using cut

/-- The line of a node below the root does not start with an icon. -/
theorem kindOf?_head_nodeLine (isBars : IsBars depth bars) (numbered isLast : Bool) (node : Node) :
    (nodeLine numbered bars isLast node).head?.bind kindOf? = none := by
  rw [nodeLine_eq]
  cases numbered with
  | true =>
      obtain ⟨digits, written, nonempty, each, -⟩ := lineNumber_eq (shownLineno node)
      cases digits with
      | nil => exact absurd rfl nonempty
      | cons c digits =>
          simpa [written] using kindOf?_of_isDigit (each c List.mem_cons_self)
  | false =>
      cases bars with
      | nil => cases isLast <;> rfl
      | cons c bars =>
          obtain rfl | rfl := isBars.eq_of_mem (List.mem_cons_self : c ∈ c :: bars) <;> rfl

theorem readNodeLine_nodeLine (isBars : IsBars depth bars) (numbered isLast : Bool) (id : NodeId)
    (node : Node) :
    readNodeLine numbered (nodeLine numbered bars isLast node) =
      some (depth + 1, mark numbered (depth + 1) id node) := by
  rw [nodeLine_eq]
  cases numbered with
  | true =>
      simp only [readNodeLine, if_true, readNumber_append, isBars.readBranch_append,
        readBranch_connector]
      simp [kindOf?_icon, mark]
  | false =>
      simp only [readNodeLine, Bool.false_eq_true, if_false, List.nil_append,
        isBars.readBranch_append, readBranch_connector]
      simp [kindOf?_icon, mark]

/-- The line of a node shows its depth and its mark. -/
theorem readLine_nodeLine (isBars : IsBars depth bars) (numbered isLast : Bool) (id : NodeId)
    (node : Node) :
    readLine numbered (nodeLine numbered bars isLast node) =
      some (depth + 1, mark numbered (depth + 1) id node) := by
  rw [readLine, kindOf?_head_nodeLine isBars]
  exact readNodeLine_nodeLine isBars numbered isLast id node

theorem forall₂_readLine_forestLines (isBars : IsBars depth bars) (numbered : Bool)
    (trees : List Tree) :
    List.Forall₂ (fun line row => readLine numbered line = some row)
      (forestLines numbered bars trees)
      (RoseTree.rowsAll (depth + 1) (Tree.labelAll (mark numbered) (depth + 1) trees)) := by
  induction trees using Tree.forest_induction generalizing depth bars with
  | nil => exact .nil
  | cons id entry below rest belowIh restIh =>
      simp only [forestLines, treeLines, Tree.labelAll, Tree.label, RoseTree.rowsAll, RoseTree.rows,
        List.cons_append]
      exact .cons (readLine_nodeLine isBars numbered _ id entry)
        (List.rel_append (belowIh (isBars.deeper _)) (restIh isBars))

/-- The lines of a drawing show the rows of the tree, one each. -/
theorem forall₂_readLine_lines (numbered : Bool) (tree : Tree) :
    List.Forall₂ (fun line row => readLine numbered line = some row) (lines numbered tree)
      ((tree.label (mark numbered) 0).rows 0) := by
  obtain ⟨id, node, children⟩ := tree
  simp only [lines, Tree.label, RoseTree.rows]
  refine .cons ?_ (forall₂_readLine_forestLines .none numbered children)
  simp [readLine, kindOf?_icon, mark]

/-! ## Lines stay lines -/

theorem newline_not_mem_label (content : Content) : '\n' ∉ label content := by
  rw [label, List.mem_map]
  rintro ⟨c, -, same⟩
  split at same
  · cases same
  · simp_all

theorem newline_not_mem_lineNumber (n : Nat) : '\n' ∉ lineNumber n := by
  obtain ⟨digits, written, -, each, -⟩ := lineNumber_eq n
  rw [written, List.mem_append]
  rintro (digit | blank)
  · cases each _ digit
  · simp at blank

theorem newline_not_mem_shorten {text : List Char} (unbroken : '\n' ∉ text) (width : Nat) :
    '\n' ∉ shorten width text := by
  rw [shorten]
  split
  · intro broken
    rcases List.mem_append.1 broken with kept | dots
    · exact unbroken (List.mem_of_mem_take kept)
    · simp at dots
  · exact unbroken

theorem newline_not_mem_nodeLine (isBars : IsBars depth bars) (numbered isLast : Bool)
    (node : Node) : '\n' ∉ nodeLine numbered bars isLast node := by
  intro broken
  have number : '\n' ∉ (if numbered then lineNumber (shownLineno node) else []) := by
    cases numbered <;> simp [newline_not_mem_lineNumber]
  have noBar : '\n' ∉ bars := fun member => by
    have either := isBars.eq_of_mem member
    simp at either
  have sign : '\n' ≠ icon node.content := by
    cases node.content <;> simp [icon]
  have text := newline_not_mem_shorten (newline_not_mem_label node.content) labelWidth
  have whole := (trimEnd_initial _).mem broken
  cases isLast <;> simp [number, noBar, sign, text] at whole

theorem newline_not_mem_forestLines (isBars : IsBars depth bars) (numbered : Bool)
    (trees : List Tree) : ∀ line ∈ forestLines numbered bars trees, '\n' ∉ line := by
  induction trees using Tree.forest_induction generalizing depth bars with
  | nil => simp [forestLines]
  | cons id entry below rest belowIh restIh =>
      simp only [forestLines, treeLines, List.cons_append, List.forall_mem_cons,
        List.forall_mem_append]
      exact ⟨newline_not_mem_nodeLine isBars numbered _ entry, belowIh (isBars.deeper _),
        restIh isBars⟩

theorem newline_not_mem_lines (numbered : Bool) (tree : Tree) :
    ∀ line ∈ lines numbered tree, '\n' ∉ line := by
  obtain ⟨id, node, children⟩ := tree
  have sign : '\n' ≠ icon node.content := by
    cases node.content <;> simp [icon]
  simp only [lines, List.forall_mem_cons]
  refine ⟨?_, newline_not_mem_forestLines .none numbered children⟩
  simp [sign, newline_not_mem_label]

/-! ## The text of a drawing -/

theorem filterMap_of_forall₂ {α β : Type} {read : α → Option β} {items : List α} {found : List β}
    (each : List.Forall₂ (fun item result => read item = some result) items found) :
    items.filterMap read = found := by
  induction each with
  | nil => rfl
  | cons first rest ih => rw [List.filterMap_cons_some first, ih]

/-- A drawing is read as the rows of its tree. -/
theorem read_render (numbered : Bool) (tree : Tree) :
    read numbered (render numbered tree) = (tree.label (mark numbered) 0).rows 0 := by
  have whole : render numbered tree = unlines (lines numbered tree) := rfl
  rw [read, whole, cutAt_unlines (newline_not_mem_lines numbered tree), List.dropLast_concat]
  exact filterMap_of_forall₂ (forall₂_readLine_lines numbered tree)

/-! ## Drawings with the same text -/

open Arena

/-- What is visited under a number is the node stored there. -/
theorem node?_of_mem_rowsAll {arena : Arena} {ids : List NodeId} {trees : List Tree}
    (unfolds : arena.Unfolds ids trees) (depth : Nat) :
    ∀ visit ∈ RoseTree.rowsAll depth (Tree.labelAll (fun _ id node => (id, node)) depth trees),
      arena.node? visit.2.1 = some visit.2.2 := by
  induction unfolds generalizing depth with
  | nil => simp [Tree.labelAll, RoseTree.rowsAll]
  | cons found down along downIh alongIh =>
      simp only [Tree.labelAll, Tree.label, RoseTree.rowsAll, RoseTree.rows, List.cons_append,
        List.forall_mem_cons, List.forall_mem_append]
      exact ⟨found, downIh (depth + 1), alongIh depth⟩

/-- The record has the kind of the node in it, and the number that is drawn unless it is a root. -/
def Records (value : Value) (node : Node) : Prop :=
  ∃ fields, value = .record fields ∧ fields.lookup "type" = some (.string node.content.typeName) ∧
    (node.content ≠ .root → fields.lookup "lineno" = some (.number (shownLineno node)))

theorem records_ofNode (below : NodeId → Value) (node : Node) (children : List Value) :
    Records (Snapshot.ofNode (node.map below) children) node := by
  obtain ⟨stamp, content⟩ := node
  cases content with
  | root => exact ⟨_, rfl, rfl, fun other => absurd rfl other⟩
  | _ => exact ⟨_, rfl, rfl, fun _ => rfl⟩

theorem records_ofId {arena : Arena} {id : NodeId} {node : Node} (found : arena.node? id = some node) :
    Records (Snapshot.ofId arena id) node := by
  obtain ⟨below, children, record⟩ := exists_fold_eq found Snapshot.ofNode .null
  rw [Snapshot.ofId, record]
  exact records_ofNode below node children

/-- What is visited is a stored node, and its record says what is drawn of it. -/
theorem records_of_mem_visits {arena : Arena} (unfoldable : arena.Unfoldable) :
    ∀ visit ∈ arena.tree.visits, arena.node? visit.2.1 = some visit.2.2 ∧
      Records (Snapshot.ofId arena visit.2.1) visit.2.2 := by
  intro visit member
  have found : arena.node? visit.2.1 = some visit.2.2 := by
    refine node?_of_mem_rowsAll unfoldable.unfolds_tree 0 visit ?_
    simpa [Tree.visits, Tree.labelAll, RoseTree.rowsAll] using member
  exact ⟨found, records_ofId found⟩

/-- A drawing has a line for each node that the walk visits, in the same order. The depth and the kind
of the node can be read off it, and the number where there is one, as the snapshot has them. So
drawings with the same text are of trees with the same shape, kinds and numbers. -/
theorem render_shows_shape {arena other : Arena} (unfoldable : arena.Unfoldable)
    (otherUnfoldable : other.Unfoldable) (numbered : Bool) :
    arena.Unfolds [root] [arena.tree] ∧ other.Unfolds [root] [other.tree] ∧
      arena.tree.visits.map (fun visit => visit.2.1) = arena.walk ∧
      (∀ visit ∈ arena.tree.visits, arena.node? visit.2.1 = some visit.2.2 ∧
        Records (Snapshot.ofId arena visit.2.1) visit.2.2) ∧
      (∃ shown, render numbered arena.tree = unlines shown ∧ (∀ line ∈ shown, '\n' ∉ line) ∧
        List.Forall₂ (fun line visit => readLine numbered line =
          some (visit.1, mark numbered visit.1 visit.2.1 visit.2.2)) shown arena.tree.visits) ∧
      read numbered (render numbered arena.tree) = arena.tree.visits.map (fun visit =>
        (visit.1, mark numbered visit.1 visit.2.1 visit.2.2)) ∧
      (render numbered arena.tree = render numbered other.tree →
        arena.tree.label (mark numbered) 0 = other.tree.label (mark numbered) 0) := by
  refine ⟨unfoldable.unfolds_tree, otherUnfoldable.unfolds_tree, ?_,
    records_of_mem_visits unfoldable, ?_, ?_, fun same => ?_⟩
  · rw [Tree.map_visits, unfoldable.walk_eq]
    simp [Tree.preorderAll]
  · refine ⟨lines numbered arena.tree, rfl, newline_not_mem_lines numbered arena.tree, ?_⟩
    have shows := forall₂_readLine_lines numbered arena.tree
    rw [Tree.rows_label, List.forall₂_map_right_iff] at shows
    exact shows
  · rw [read_render, Tree.rows_label]
  · have rows : (arena.tree.label (mark numbered) 0).rows 0 =
        (other.tree.label (mark numbered) 0).rows 0 := by
      rw [← read_render, ← read_render, same]
    exact RoseTree.eq_of_rows rows

/-- Texts that look like a line of a drawing and differ behind the thirtieth character. -/
theorem render_shows_shape_cut_labels :
    ∃ first second,
      Template.parse "%p= a\n  └─ ◦ 6789012345678901234567890z\n\n".toList = .ok first ∧
      Template.parse "%p= a\n  └─ ◦ 6789012345678901234567890 x y\n\n".toList = .ok second ∧
      render true first.tree = render true second.tree ∧
      first.tree.label (mark true) 0 = second.tree.label (mark true) 0 := by
  have drawn : ∀ source ∈ ["%p= a\n  └─ ◦ 6789012345678901234567890z\n\n".toList,
      "%p= a\n  └─ ◦ 6789012345678901234567890 x y\n\n".toList],
      (Template.parse source).toOption.map (fun arena => render true arena.tree) =
        some ("⧉ template\n01 └─ ⊞ %p = a\n02   ├─ ◦ └─ ◦ 6789012345678901234567890...\n" ++
          "03   └─ ∅\n").toList := by
    decide +kernel
  have firstDrawn := drawn _ List.mem_cons_self
  have secondDrawn := drawn _ (List.mem_cons_of_mem _ List.mem_cons_self)
  cases accepted : Template.parse "%p= a\n  └─ ◦ 6789012345678901234567890z\n\n".toList with
  | error fault => rw [accepted] at firstDrawn; cases firstDrawn
  | ok first =>
      cases otherAccepted : Template.parse
          "%p= a\n  └─ ◦ 6789012345678901234567890 x y\n\n".toList with
      | error fault => rw [otherAccepted] at secondDrawn; cases secondDrawn
      | ok second =>
          rw [accepted] at firstDrawn
          rw [otherAccepted] at secondDrawn
          have same : render true first.tree = render true second.tree :=
            Option.some.inj (firstDrawn.trans secondDrawn.symm)
          obtain ⟨-, -, -, -, -, -, shape⟩ := render_shows_shape
            (Template.unfoldable_of_parse accepted) (Template.unfoldable_of_parse otherAccepted) true
          exact ⟨first, second, rfl, rfl, same, shape same⟩

end HamlTree.Drawing
