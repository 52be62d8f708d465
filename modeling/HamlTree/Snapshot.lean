import HamlTree.Tree
import HamlTree.Value

/-!
# Snapshot -- a tree as plain data

Every node becomes a record: its kind under `type`, where it came from, and the fields of its
kind. The node on an element's own line is a record inside the record, with its children like any
other. The root has no place of its own. A container has its children under `children` even when
there are none, a leaf has no such field, and what is missing is `null` instead of left out.
Fields are in ascending order of their names.
-/

set_option autoImplicit false

namespace HamlTree.Snapshot

/-- A keyword, or none. -/
def keywordValue (keyword : Option Keyword) : Value :=
  .ofOption (keyword.map Keyword.word)

mutual

/-- The record of a node with the records of its children, in which the child lists on its own line hold
records already. -/
def ofContent (stamp : Stamp) (children : List Value) : Content Value → Value
  | .root => .record [("children", .list children), ("type", .string "root")]
  | .doctype declaration => .record
    [("doctype", .string declaration), ("filename", .ofOption stamp.filename),
     ("lineno", .number stamp.lineno), ("type", .string "doctype")]
  | .element tag inline => .record
    [("attributes", .string tag.attributes), ("children", .list children),
     ("filename", .ofOption stamp.filename), ("lineno", .number stamp.lineno),
     ("nuke_inner_whitespace", .bool tag.nukesInner),
     ("nuke_outer_whitespace", .bool tag.nukesOuter),
     ("oneline_child", ofInline inline), ("self_closing", .bool tag.selfClosing),
     ("static_class", .string tag.classes), ("static_id", .string tag.id),
     ("tag_name", .string tag.name), ("type", .string "element")]
  | .script code keyword escapesHtml preserves => .record
    [("children", .list children), ("escape_html", .bool escapesHtml),
     ("filename", .ofOption stamp.filename), ("keyword", keywordValue keyword),
     ("lineno", .number stamp.lineno), ("preserve", .bool preserves),
     ("script", .string code), ("type", .string "script")]
  | .silentScript code keyword isMidBlock => .record
    [("children", .list children), ("filename", .ofOption stamp.filename),
     ("keyword", keywordValue keyword), ("lineno", .number stamp.lineno),
     ("mid_block_keyword", .bool isMidBlock), ("script", .string code),
     ("type", .string "silent_script")]
  | .htmlComment text condition => .record
    [("children", .list children), ("comment", .string text),
     ("conditional", .string condition), ("filename", .ofOption stamp.filename),
     ("lineno", .number stamp.lineno), ("type", .string "html_comment")]
  | .authorComment => .record
    [("children", .list children), ("filename", .ofOption stamp.filename),
     ("lineno", .number stamp.lineno), ("type", .string "haml_comment")]
  | .text text escapesHtml => .record
    [("escape_html", .bool escapesHtml), ("filename", .ofOption stamp.filename),
     ("lineno", .number stamp.lineno), ("text", .string text), ("type", .string "text")]
  | .filter name texts => .record
    [("filename", .ofOption stamp.filename), ("lineno", .number stamp.lineno),
     ("name", .string name), ("texts", .ofStrings texts), ("type", .string "filter")]
  | .blank => .record
    [("filename", .ofOption stamp.filename), ("lineno", .number stamp.lineno),
     ("type", .string "empty")]

/-- The record of the node on an element's own line. -/
def ofInline : Inline Value → Value
  | .none => .null
  | .node stamp content children => ofContent stamp children content

end

/-- The record of a node with the records of its children. -/
def ofNode (node : Node Value) (children : List Value) : Value :=
  ofContent node.stamp children node.content

/-- The record of a stored node and everything below it. -/
def ofId (arena : Arena) (id : NodeId) : Value :=
  arena.fold ofNode .null id

/-- The record of a whole template. -/
def ofArena (arena : Arena) : Value :=
  ofId arena Arena.root

end HamlTree.Snapshot
