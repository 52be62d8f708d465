import HamlTree.Proofs.SingleTree
import HamlTree.Proofs.Stepping

/-!
# LegalNesting -- what stands below what in an accepted template

Whether a node may have others below it is asked in one place only, when a deeper line enters the
youngest node. Nodes are put below others in four places: where a line is read, where a filter ends,
for lines folded into another, and where blank nodes move. `State.Legal` is what makes the one
question enough: every container on the stack has passed it (`entered`), and so has every node with
children (`Arena.Legal.nests`). Inside a comment for the author only text and blank nodes are ever
added (`Arena.Legal.remarks`).

What a single line yields is `Content.Proper`: never a root, and on an element's own line only text
or code to put out, with no child, and nothing if the element closes itself.
-/

set_option autoImplicit false

namespace HamlTree

namespace Content

/-- What a line can yield. -/
def Proper : Content → Prop
  | root => False
  | element tag inline =>
    (tag.selfClosing = true → inline = .none) ∧
      ∀ stamp output children, inline = .node stamp output children →
        Expression.Puts output ∧ children = []
  | _ => True

/-- What the body of a comment for the author can hold. -/
def isRemark : Content → Bool
  | text _ escapesHtml => escapesHtml
  | blank => true
  | _ => false

theorem isRemark_cases {content : Content} (remark : content.isRemark = true) :
    (∃ words, content = .text words true) ∨ content = .blank := by
  cases content with
  | text words escapesHtml =>
      obtain rfl : escapesHtml = true := remark
      exact .inl ⟨words, rfl⟩
  | blank => exact .inr rfl
  | _ => cases remark

end Content

/-! ## What a line yields -/

theorem Line.Yields.proper {stamp : Stamp} {content : Content} (yields : Yields stamp content) :
    content.Proper := by
  cases yields with
  | output puts => obtain ⟨_, _, rfl⟩ | ⟨_, _, _, _, rfl⟩ := puts <;> trivial
  | @element tag inline puts closes =>
      cases inline with
      | none => exact ⟨fun _ => rfl, fun stamp output children same => by cases same⟩
      | some child =>
          refine ⟨fun selfClosing => ?_, fun stamp output children same => ?_⟩
          · cases closes selfClosing
          · cases same
            exact ⟨puts _ rfl, rfl⟩
  | doctype | htmlComment | authorComment | silentScript => trivial

/-! ## Legal trees -/

namespace Template

open Indentation FilterBlock Text

/-- Only nodes that allow it have children, and those of a comment for the author are text and blank
nodes. -/
structure Legal (arena : Arena) : Prop where
  proper : ∀ {id : Nat} {content : Content}, id ≠ Arena.root → arena.content? id = some content →
    content.Proper
  nests : ∀ {parent child : Nat} {content : Content}, child ∈ arena.children parent →
    arena.content? parent = some content → nestingFault? content = none
  remarks : ∀ {comment child : Nat} {content : Content}, arena.isAuthorComment comment = true →
    child ∈ arena.children comment → arena.content? child = some content →
    content.isRemark = true

namespace Legal

variable {arena : Arena} {parent target : Nat}

theorem empty : Legal .empty where
  proper {id content} notRoot found := by
    have stored := Arena.lt_size_of_content? found
    exact absurd (Nat.lt_one_iff.1 stored) notRoot
  nests listed := by simp [Arena.children_empty] at listed
  remarks _ listed := by simp [Arena.children_empty] at listed

theorem append (legal : Legal arena) (rooted : arena.Rooted)
    (container : arena.isContainer parent = true)
    (allowed : ∀ content, arena.content? parent = some content → nestingFault? content = none)
    {node : Node} (proper : node.content.Proper)
    (suits : arena.isAuthorComment parent = true → node.content.isRemark = true) :
    Legal (arena.append parent node).2 := by
  have old : ∀ {id : Nat}, id < arena.size →
      (arena.append parent node).2.content? id = arena.content? id := fun stored =>
    Arena.content?_congr (Arena.node?_append_of_lt stored parent node)
  have new : (arena.append parent node).2.content? arena.size = some node.content := by
    simp [Arena.content?]
  have parentStored := Arena.lt_size_of_isContainer container
  have lists := Arena.mem_children_append container node
  refine ⟨fun {id content} notRoot found => ?_, fun {id child content} listed found => ?_,
    fun {comment child content} isComment listed found => ?_⟩
  · have stored := Arena.lt_size_of_content? found
    rw [Arena.size_append] at stored
    by_cases fresh : id = arena.size
    · subst fresh
      cases new.symm.trans found
      exact proper
    · exact legal.proper notRoot ((old (by omega)).symm.trans found)
  · rcases (lists _ _).1 listed with before | ⟨rfl, -⟩
    · have stored := Nat.lt_trans (rooted.parent_lt before) (rooted.stored before)
      exact legal.nests before ((old stored).symm.trans found)
    · exact allowed content ((old parentStored).symm.trans found)
  · rcases (lists _ _).1 listed with before | ⟨rfl, rfl⟩
    · have stored := rooted.stored before
      have commentStored := Nat.lt_trans (rooted.parent_lt before) stored
      refine legal.remarks ?_ before ((old stored).symm.trans found)
      rw [← isComment]
      exact (Arena.isAuthorComment_congr (Arena.node?_append_of_lt commentStored ..)).symm
    · cases new.symm.trans found
      refine suits ?_
      rw [← isComment]
      exact (Arena.isAuthorComment_congr (Arena.node?_append_of_lt parentStored ..)).symm

theorem relocate (legal : Legal arena) (rooted : arena.Rooted)
    (youngest : arena.youngest? parent = some target)
    (allowed : ∀ content, arena.content? target = some content → nestingFault? content = none)
    (container : arena.isContainer target = true) : Legal (arena.relocate parent target) := by
  have same : ∀ id, (arena.relocate parent target).content? id = arena.content? id :=
    fun id => Arena.content?_congr (Arena.node?_relocate ..)
  have lists := rooted.mem_children_relocate youngest container
  refine ⟨fun {id content} notRoot found => ?_, fun {id child content} listed found => ?_,
    fun {comment child content} isComment listed found => ?_⟩
  · exact legal.proper notRoot ((same id).symm.trans found)
  · rcases (lists _ _).1 listed with ⟨before, -⟩ | ⟨rfl, -⟩
    · exact legal.nests before ((same id).symm.trans found)
    · exact allowed content ((same id).symm.trans found)
  · rw [Arena.isAuthorComment_congr (Arena.node?_relocate ..)] at isComment
    rw [same] at found
    rcases (lists _ _).1 listed with ⟨before, -⟩ | ⟨rfl, trailing⟩
    · exact legal.remarks isComment before found
    · have blank := Arena.isBlank_of_mem_trailing trailing
      simp only [Arena.isBlank, found, Option.any_some] at blank
      cases content <;> first | rfl | cases blank

end Legal

/-! ## Legal states -/

namespace State

variable {source line physical : List Char} {state next ready entered after : State} {feed : Feed}

/-- The tree is legal, and every container on the stack may have children. -/
structure Legal (state : State) : Prop where
  tree : Template.Legal state.arena
  entered : ∀ id ∈ state.current :: state.stack, ∀ content,
    state.arena.content? id = some content → nestingFault? content = none

namespace Legal

theorem ofSource (source : List Char) (filename : Option String) :
    (State.ofSource source filename).Legal where
  tree := .empty
  entered id member content found := by
    obtain rfl : id = Arena.root := by simpa [State.ofSource] using member
    cases found
    rfl

theorem note (legal : state.Legal) (feed : Feed) (filter : Collector) (lineno : Nat) :
    { state with feed, filter, lineno }.Legal :=
  ⟨legal.tree, legal.entered⟩

theorem addNode (legal : state.Legal) (aligned : state.Aligned) {node : Node}
    (proper : node.content.Proper)
    (suits : state.inAuthorComment = true → node.content.isRemark = true) :
    (state.addNode node).Legal where
  tree := legal.tree.append aligned.rooted aligned.container
    (legal.entered _ List.mem_cons_self) proper suits
  entered id member content found := by
    have old := Arena.node?_append_of_lt (aligned.lt_size member) state.current node
    exact legal.entered id member content ((Arena.content?_congr old).symm.trans found)

theorem addBlanks (legal : state.Legal) (aligned : state.Aligned) (linenos : List Nat) :
    (state.addBlanks linenos).Legal := by
  induction linenos generalizing state with
  | nil => exact legal
  | cons lineno rest ih =>
      rw [addBlanks_cons]
      exact ih (legal.addNode aligned trivial fun _ => rfl) (aligned.addNode _)

/-- A filter ends outside comments. -/
theorem addFilter (legal : state.Legal) (aligned : state.Aligned)
    (outside : state.inAuthorComment = false) (block : Finished) (last : Nat) :
    (state.addFilter block last).Legal := by
  have added : (state.addNode block.node).Legal :=
    legal.addNode aligned trivial fun inside =>
      absurd (outside.symm.trans inside) Bool.false_ne_true
  exact added.addBlanks (aligned.addNode _) _

theorem follow (legal : state.Legal) (aligned : state.Aligned)
    (followed : Followed state line entered) : entered.Legal := by
  cases followed with
  | stay why => exact legal
  | enter solid higher outside enters =>
      obtain ⟨target, youngest, allowed, rfl, -⟩ := enter_cases enters aligned.container
      have container := aligned.isContainer_youngest youngest allowed
      refine ⟨legal.tree.relocate aligned.rooted youngest allowed container, ?_⟩
      intro id member content found
      rw [Arena.content?_congr (Arena.node?_relocate ..)] at found
      rcases List.mem_cons.1 member with rfl | outer
      · exact allowed content found
      · exact legal.entered id outer content found
  | @leave around closed solid lower outside closes =>
      have fits : closed ≤ state.stack.length := aligned.depth ▸ (closeAbove_spec closes).1
      obtain ⟨current, stack, dropped, same⟩ := leaveMany_eq fits ⟨levelOf line, around, none⟩
      rw [same]
      refine ⟨legal.tree, fun id member => legal.entered id ?_⟩
      exact (List.drop_sublist closed _).subset (dropped ▸ member)

theorem told (legal : entered.Legal) (aligned : entered.Aligned) {text : List Char}
    (told : Told entered text after) : after.Legal := by
  cases told with
  | blank gone => exact legal.addNode aligned trivial fun _ => rfl
  | remark solid inside => exact legal.addNode aligned trivial fun _ => rfl
  | @node content feed solid outside moved filled reading =>
      refine (legal.note feed entered.filter entered.lineno).addNode
        (aligned.growth (.note entered feed entered.filter entered.lineno))
        (Line.read_yields (congrArg Prod.fst reading)).proper fun inside => ?_
      exact absurd (outside.symm.trans inside) Bool.false_ne_true
  | filter outside named word => exact legal.note entered.feed _ entered.lineno
  | @nothing feed solid outside moved void => exact legal.note feed entered.filter entered.lineno

theorem step (legal : state.Legal) (aligned : state.Aligned)
    (stepped : state.Stepped source next) : next.Legal := by
  cases stepped with
  | @collect draft text line physical feed filter opened found outside taken single grown =>
      exact legal.note feed filter feed.lineno
  | @read line physical feed ready entered after reads told =>
      have readied : ready.Legal := by
        cases reads.readied with
        | idle closed => exact legal.note feed state.filter state.lineno
        | closing found outside single =>
            exact (legal.note feed {} feed.lineno).addFilter
              (aligned.growth (.note state feed {} feed.lineno)) outside _ _
      have started : (ready.started line).Legal := readied.note ready.feed ready.filter _
      have inner := started.follow (reads.started_aligned aligned) reads.followed
      exact (inner.told (reads.aligned aligned) told).addBlanks
        ((reads.aligned aligned).grows told.grows) _

end Legal

end State

/-! ## Whole templates -/

variable {source : List Char} {filename : Option String} {arena : Arena}

theorem Reached.legal {state : State} (reached : Reached source filename state) :
    state.Legal := by
  induction reached with
  | start => exact .ofSource source filename
  | step reached more steps ih =>
      exact ih.step reached.aligned (State.step_stepped reached.placed more steps)

theorem legal_of_parse (accepted : parse source filename = .ok arena) : Legal arena := by
  obtain ⟨last, -, reached, -, rfl⟩ := parse_cases accepted
  rcases State.flushed_cases last with ⟨-, same⟩ | ⟨draft, found, same⟩
  · rw [same]
    exact reached.legal.tree
  · rw [same]
    exact ((reached.legal.note last.feed {} last.lineno).addFilter
      (reached.aligned.growth (.note last last.feed {} last.lineno))
      (reached.placed.filter draft found).1 _ _).tree

/-- A node that may not have children has none. -/
theorem Legal.childless (legal : Legal arena) {id : Nat} {content : Content} {fault : Fault}
    (found : arena.content? id = some content) (refuses : nestingFault? content = some fault) :
    arena.children id = [] := by
  rw [List.eq_nil_iff_forall_not_mem]
  intro child listed
  have allowed := legal.nests listed found
  rw [refuses] at allowed
  cases allowed

/-- In an accepted template self-closing elements are empty, html comments have text or children but
not both, comments for the author hold plain text and blank lines, the root is the only one of its
kind, and an element has on its own line text or code, with nothing below it. -/
theorem parse_nests_legally (accepted : parse source filename = .ok arena) :
    (∀ id tag inline, arena.content? id = some (.element tag inline) → tag.selfClosing = true →
        arena.children id = [] ∧ inline = .none) ∧
      (∀ id text condition, arena.content? id = some (.htmlComment text condition) → text ≠ "" →
        arena.children id = []) ∧
      (∀ id child, arena.content? id = some .authorComment → child ∈ arena.children id →
        (∃ text, arena.content? child = some (.text text true)) ∨
          arena.content? child = some .blank) ∧
      (∀ id, id ≠ Arena.root → arena.content? id ≠ some .root) ∧
      ∀ id tag stamp output children,
        arena.content? id = some (.element tag (.node stamp output children)) →
        ((∃ words escapes, output = .text words escapes) ∨
          ∃ code keyword escapes preserves, output = .script code keyword escapes preserves) ∧
        children = [] := by
  have legal := legal_of_parse accepted
  have notRoot : ∀ {id content}, arena.content? id = some content → content ≠ .root →
      id ≠ Arena.root := by
    rintro id content found other rfl
    rw [(rooted_of_parse accepted).content_root] at found
    exact other (Option.some.inj found).symm
  refine ⟨fun id tag inline found closes => ⟨?_, ?_⟩, fun id text condition found filled => ?_,
    fun id child found listed => ?_, fun id other found => ?_,
    fun id tag stamp output children found => ?_⟩
  · exact legal.childless found (if_pos closes)
  · exact (legal.proper (notRoot found (by simp)) found).1 closes
  · refine legal.childless found (if_neg ?_)
    simpa using filled
  · obtain ⟨content, stored⟩ := Arena.exists_content? ((rooted_of_parse accepted).stored listed)
    have isComment : arena.isAuthorComment id = true := by simp [Arena.isAuthorComment, found,
      Content.isAuthorComment]
    rw [stored]
    rcases Content.isRemark_cases (legal.remarks isComment listed stored) with ⟨words, rfl⟩ | rfl
    · exact .inl ⟨words, rfl⟩
    · exact .inr rfl
  · exact legal.proper other found
  · exact (legal.proper (notRoot found (by simp)) found).2 stamp output children rfl

/-- A self-closing element, a comment for the author around markup that is not read as such and a blank
line, and an element with code on its own line. -/
theorem parse_nests_legally_markup_in_comment :
    ∃ arena, parse "%br/\n-# a\n   %b\n\n  = c\n%p= d".toList = .ok arena ∧
      (∃ tag, arena.content? 1 = some (.element tag .none) ∧ tag.selfClosing = true ∧
        arena.children 1 = []) ∧
      arena.children 2 = [3, 4, 5] ∧
      (∀ child ∈ arena.children 2, (∃ text, arena.content? child = some (.text text true)) ∨
        arena.content? child = some .blank) ∧
      ∃ tag stamp code children,
        arena.content? 6 =
          some (.element tag (.node stamp (.script code none true false) children)) ∧
        children = [] := by
  have facts : (parse "%br/\n-# a\n   %b\n\n  = c\n%p= d".toList).toOption.map (fun arena =>
      (arena.content? 1, arena.content? 2, arena.children 2, arena.content? 6)) =
        some (some (.element { name := "br", selfClosing := true } .none), some .authorComment,
          [3, 4, 5],
          some (.element { name := "p" } (.node ⟨none, 6⟩ (.script "d" none true false) []))) := by
    decide +kernel
  cases accepted : parse "%br/\n-# a\n   %b\n\n  = c\n%p= d".toList with
  | error fault => rw [accepted] at facts; cases facts
  | ok arena =>
      rw [accepted] at facts
      simp only [Except.toOption, Option.map_some, Option.some.injEq, Prod.mk.injEq] at facts
      obtain ⟨element, comment, listed, coded⟩ := facts
      obtain ⟨closing, -, remarks, -, onLine⟩ := parse_nests_legally accepted
      exact ⟨arena, rfl, ⟨_, element, rfl, (closing 1 _ _ element rfl).1⟩, listed,
        fun child member => remarks 2 child comment member,
        ⟨_, _, _, _, coded, (onLine 6 _ _ _ _ coded).2⟩⟩

end Template

end HamlTree
