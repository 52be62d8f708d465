import HamlTree.FilterBlock
import HamlTree.Line
import HamlTree.Template
import HamlTree.Proofs.FeedLaws
import HamlTree.Proofs.Lookahead

/-!
# Restamping -- how a line reads does not depend on its stamp

A stamp is put on every node, on the node that an element has on its own line, and on a filter when
it opens; nothing ever looks at it. So a change of all stamps can be made before a line is read or
afterwards (`Line.read_restamp`), and a filter collects the same lines under any stamp
(`Collector.append_restamp`). What may stand below a node does not depend on stamps either
(`Content.nestingFault?_restamp`).
-/

set_option autoImplicit false

namespace HamlTree

open Text

/-! ## Contents and nodes -/

mutual

/-- The content with the stamp changed on the element's own line, if there is a node there. -/
def Content.restamp (change : Stamp → Stamp) : Content → Content
  | .element tag inline => .element tag (inline.restamp change)
  | content => content

/-- The node on an element's own line with another stamp. -/
def Inline.restamp (change : Stamp → Stamp) : Inline → Inline
  | .none => .none
  | .node stamp content children => .node (change stamp) (content.restamp change) children

end

/-- The node with another stamp. -/
def Node.restamp (change : Stamp → Stamp) (node : Node) : Node :=
  ⟨change node.stamp, node.content.restamp change⟩

mutual

theorem Content.restamp_id : ∀ content : Content, content.restamp id = content
  | .element tag inline => by rw [Content.restamp, Inline.restamp_id inline]
  | .root | .doctype _ | .script .. | .silentScript .. | .htmlComment .. | .authorComment
  | .text .. | .filter .. | .blank => rfl

theorem Inline.restamp_id : ∀ inline : Inline, inline.restamp id = inline
  | .none => rfl
  | .node stamp content children => by
      rw [Inline.restamp, Content.restamp_id content]
      rfl

end

theorem Node.restamp_id (node : Node) : node.restamp id = node := by
  rw [Node.restamp, Content.restamp_id]
  rfl

namespace Content

variable (change : Stamp → Stamp) (content : Content)

@[simp] theorem isBlank_restamp : (content.restamp change).isBlank = content.isBlank := by
  cases content <;> rfl

@[simp] theorem isContainer_restamp :
    (content.restamp change).isContainer = content.isContainer := by
  cases content <;> rfl

@[simp] theorem isAuthorComment_restamp :
    (content.restamp change).isAuthorComment = content.isAuthorComment := by
  cases content <;> rfl

@[simp] theorem nestingFault?_restamp :
    Template.nestingFault? (content.restamp change) = Template.nestingFault? content := by
  cases content <;> rfl

end Content

/-! ## Readers -/

section Reading

variable (change : Stamp → Stamp)

theorem Expression.Puts.restamp_eq {content : Content} (puts : Expression.Puts content) :
    content.restamp change = content := by
  obtain ⟨_, _, rfl⟩ | ⟨_, _, _, _, rfl⟩ := puts
  · rfl
  · rfl

namespace Element

theorem readTail_restamp (stamp : Stamp) (tag : Tag) (text : List Char) (feed : Feed) :
    readTail (change stamp) tag text feed =
      Reading.map (Content.restamp change) (readTail stamp tag text feed) := by
  unfold readTail
  dsimp only
  rcases readSelfClosing (readNukes text).2 with _ | ⟨selfClosing, rest⟩
  · rfl
  dsimp only
  rcases reading : Expression.read rest feed with ⟨_ | _ | output, after⟩
  · rfl
  · rfl
  · have same := (Expression.read_puts (congrArg Prod.fst reading)).restamp_eq change
    simp [Reading.map, Except.map, Content.restamp, Inline.restamp, Inline.ofNode?, same]

theorem read_restamp (stamp : Stamp) (text : List Char) (feed : Feed) :
    read (change stamp) text feed =
      Reading.map (Content.restamp change) (read stamp text feed) := by
  rw [read_eq, read_eq]
  rcases readHead text with _ | ⟨name, selectors, rest⟩
  · rfl
  dsimp only
  rcases readSelectors selectors with _ | ⟨classes, id⟩
  · rfl
  dsimp only
  rcases readAttributes rest feed with ⟨_ | taken, after⟩
  · rfl
  · exact readTail_restamp ..

end Element

namespace Line

/-- The meaning of the same line under another stamp. -/
def Meaning.restamp : Meaning → Meaning
  | .node content => .node (content.restamp change)
  | meaning => meaning

theorem yields_restamp (reading : Reading Content) :
    yields (Reading.map (Content.restamp change) reading) =
      Reading.map (Meaning.restamp change) (yields reading) := by
  rcases reading with ⟨_ | _, _⟩
  · rfl
  · rfl

theorem yieldsAny_restamp {text : List Char} {feed : Feed} :
    yieldsAny (Expression.read text feed) =
      Reading.map (Meaning.restamp change) (yieldsAny (Expression.read text feed)) := by
  rcases reading : Expression.read text feed with ⟨_ | _ | output, after⟩
  · rfl
  · rfl
  · have same := (Expression.read_puts (congrArg Prod.fst reading)).restamp_eq change
    simp [yieldsAny, Reading.map, Except.map, Meaning.restamp, same]

/-- The stamp of a line shows only in the stamps of what it reads as. -/
theorem read_restamp (stamp : Stamp) (text : List Char) (feed : Feed) :
    read (change stamp) text feed =
      Reading.map (Meaning.restamp change) (read stamp text feed) := by
  have comment : ∀ rest, (readComment rest).map Meaning.node =
      ((readComment rest).map Meaning.node).map (Meaning.restamp change) := by
    intro rest
    unfold readComment
    split
    · dsimp only
      split
      · rfl
      · rfl
    · rfl
  unfold read
  split
  · rfl
  · rw [Element.read_restamp, yields_restamp]
  · rfl
  · exact congrArg (·, feed) (comment _)
  · rfl
  · rfl
  · exact yieldsAny_restamp change
  · rw [Element.read_restamp, yields_restamp]
  · rw [Element.read_restamp, yields_restamp]
  · dsimp only [Reading.map]
    rcases readFilterName _ with _ | _
    · rfl
    · rfl
  · exact yieldsAny_restamp change

end Line

end Reading

/-! ## Filters -/

namespace FilterBlock

variable (change : Stamp → Stamp)

/-- The filter being read, under another stamp. -/
def Draft.restamp (draft : Draft) : Draft :=
  { draft with stamp := change draft.stamp }

/-- The finished filter, under another stamp. -/
def Finished.restamp (block : Finished) : Finished :=
  { block with stamp := change block.stamp }

/-- What has been collected of a filter, under another stamp. -/
def Collector.restamp (collector : Collector) : Collector :=
  { collector with draft := collector.draft.map (Draft.restamp change) }

namespace Collector

variable (collector : Collector)

@[simp] theorem isOpen_restamp : (collector.restamp change).isOpen = collector.isOpen := by
  simp [isOpen, restamp]

theorem restamp_id : collector.restamp id = collector := by
  rcases collector with ⟨_ | draft, body⟩
  · rfl
  · rfl

theorem pushText_restamp (text : List Char) :
    (collector.restamp change).pushText text = (collector.pushText text).restamp change := by
  simp only [pushText, restamp, Option.map_map]
  rfl

theorem close_restamp :
    (collector.restamp change).close =
      (collector.close.1.restamp change, collector.close.2.map (Finished.restamp change)) := by
  rcases collector with ⟨_ | draft, body⟩
  · rfl
  · rfl

theorem append_restamp (line : List Char) (level : Nat) :
    (collector.restamp change).append line level =
      ((collector.append line level).1.restamp change,
        (collector.append line level).2.map (Finished.restamp change)) := by
  unfold append
  dsimp only
  split
  · rw [pushText_restamp]
    rfl
  · rw [show (collector.restamp change).bodyIndent = collector.bodyIndent from rfl]
    cases collector.bodyIndent with
    | none =>
        dsimp only
        split
        · exact congrArg (·, none) (pushText_restamp change { collector with
            bodyIndent := some (Indentation.split line).1.length } _)
        · exact close_restamp change collector
    | some body =>
        dsimp only
        split
        · exact close_restamp change collector
        · rw [pushText_restamp]
          rfl

end Collector

end FilterBlock

end HamlTree
