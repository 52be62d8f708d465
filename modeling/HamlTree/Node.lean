import HamlTree.Keyword

/-!
# Node -- what stands on a line of a template

A `Node` is a `Content` with the `Stamp` of the line it came from. Content is one of ten kinds;
six of them, the containers, can have other nodes below them. Which nodes those are is not part of
the node: child lists belong to the tree. An element is the exception, since text or code on the
element's own line is a node inside it, its `Inline`, and that one has its child list with it.

What such a list holds is left open. In a template it holds the numbers of other nodes; `Content.map`
puts something else in their place, for instance what those nodes are shown as.
-/

set_option autoImplicit false

namespace HamlTree

/-- The number of a node, in order of creation. -/
abbrev NodeId := Nat

/-- Where a node comes from: the template's name, when known, and the one-based line. -/
structure Stamp where
  filename : Option String := none
  lineno : Nat := 0
deriving DecidableEq, Repr

/-- The head of an element. `classes` has a blank between neighbours, `attributes` is the text of
the attribute groups as written. -/
structure Tag where
  name : String := ""
  classes : String := ""
  id : String := ""
  attributes : String := ""
  selfClosing : Bool := false
  nukesInner : Bool := false
  nukesOuter : Bool := false
deriving DecidableEq, Repr

mutual

/-- What a node is, apart from where it stands. -/
inductive Content (α : Type := NodeId) where
  /-- The template as a whole. -/
  | root
  | doctype (declaration : String)
  | element (tag : Tag) (inline : Inline α)
  /-- Code whose value is put out. -/
  | script (code : String) (keyword : Option Keyword) (escapesHtml preserves : Bool)
  /-- Code that is only run. It keeps by itself whether it goes on with a block, which follows from
  the keyword unless said otherwise. -/
  | silentScript (code : String) (keyword : Option Keyword)
      (isMidBlock : Bool := keyword.any Keyword.isMidBlock)
  | htmlComment (text condition : String)
  /-- A comment for the author, which puts nothing out. -/
  | authorComment
  | text (text : String) (escapesHtml : Bool)
  | filter (name : String) (texts : List String)
  | blank
deriving DecidableEq, Repr

/-- The node that an element has on its own line, if any, with its children. -/
inductive Inline (α : Type := NodeId) where
  | none
  | node (stamp : Stamp) (content : Content α) (children : List α)
deriving DecidableEq, Repr

end

namespace Content

variable {α : Type}

/-- The name of a kind. -/
def typeName : Content α → String
  | root => "root"
  | doctype .. => "doctype"
  | element .. => "element"
  | script .. => "script"
  | silentScript .. => "silent_script"
  | htmlComment .. => "html_comment"
  | authorComment => "haml_comment"
  | text .. => "text"
  | filter .. => "filter"
  | blank => "empty"

/-- Other nodes may stand below this one. -/
def isContainer : Content α → Bool
  | root | element .. | script .. | silentScript .. | htmlComment .. | authorComment => true
  | doctype .. | text .. | filter .. | blank => false

/-- The content of an empty line. -/
def isBlank : Content α → Bool
  | blank => true
  | _ => false

/-- A comment for the author. -/
def isAuthorComment : Content α → Bool
  | authorComment => true
  | _ => false

/-! ## Views of one kind -/

/-- The name of an element. -/
def elementName? : Content α → Option String
  | element tag _ => some tag.name
  | _ => Option.none

/-- The text of a text node. -/
def text? : Content α → Option String
  | text words _ => some words
  | _ => Option.none

/-- The code of an output script. -/
def script? : Content α → Option String
  | script code .. => some code
  | _ => Option.none

/-- The code of a silent script. -/
def silentScript? : Content α → Option String
  | silentScript code .. => some code
  | _ => Option.none

/-- The name of a filter. -/
def filterName? : Content α → Option String
  | filter name _ => some name
  | _ => Option.none

end Content

/-! ## Child lists on an element's line -/

section Lists

variable {α β : Type}

mutual

/-- What stands on the child lists in a content: that of the node on an element's own line, that of the
node on the line of that one, and so on. -/
def Content.listed : Content α → List α
  | .element _ inline => inline.listed
  | _ => []

/-- What stands on the child lists in an inline node. -/
def Inline.listed : Inline α → List α
  | .none => []
  | .node _ content children => children ++ content.listed

end

mutual

/-- A content with something else in its child lists. -/
def Content.map (f : α → β) : Content α → Content β
  | .root => .root
  | .doctype declaration => .doctype declaration
  | .element tag inline => .element tag (inline.map f)
  | .script code keyword escapesHtml preserves => .script code keyword escapesHtml preserves
  | .silentScript code keyword isMidBlock => .silentScript code keyword isMidBlock
  | .htmlComment text condition => .htmlComment text condition
  | .authorComment => .authorComment
  | .text text escapesHtml => .text text escapesHtml
  | .filter name texts => .filter name texts
  | .blank => .blank

/-- An inline node with something else in its child lists. -/
def Inline.map (f : α → β) : Inline α → Inline β
  | .none => .none
  | .node stamp content children => .node stamp (content.map f) (children.map f)

end

end Lists

/-- A content and the line it came from. -/
structure Node (α : Type := NodeId) where
  stamp : Stamp
  content : Content α
deriving DecidableEq, Repr

/-- A node with something else in the child lists on its line. -/
def Node.map {α β : Type} (f : α → β) (node : Node α) : Node β :=
  ⟨node.stamp, node.content.map f⟩

namespace Inline

/-- The node on an element's own line, without children so far. -/
def ofNode? : Option Node → Inline
  | some child => .node child.stamp child.content []
  | Option.none => .none

end Inline

end HamlTree
