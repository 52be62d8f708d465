import HamlTree.Drawing
import HamlTree.Snapshot
import HamlTree.Value.Json
import HamlTree.Value.Yaml

/-!
# Format -- the forms in which a tree is shown

A tree is shown as JSON, as YAML or as a drawing. `Format.ofName` finds a format by its name,
whatever the case of the letters and the white space around it; the error repeats the name as it
was given.
-/

set_option autoImplicit false

namespace HamlTree

/-- The forms in which a tree is shown. -/
inductive Format where
  | json
  | yaml
  | drawing
deriving DecidableEq, Repr

/-- No format has this name. -/
structure UnknownFormat where
  name : String
deriving DecidableEq, Repr

namespace UnknownFormat

/-- The wording of the error. -/
def message (error : UnknownFormat) : String :=
  "Format '" ++ error.name ++ "' not found"

end UnknownFormat

/-- Switches of the formats: `pretty` concerns JSON alone, `lineNumbers` the drawing alone. -/
structure RenderOptions where
  pretty : Bool := false
  lineNumbers : Bool := false
deriving DecidableEq, Repr

namespace Format

/-- All formats. -/
def all : List Format :=
  [json, yaml, drawing]

/-- The name of a format. -/
def name : Format → String
  | json => "json"
  | yaml => "yaml"
  | drawing => "treeviz"

/-- The format with this name, whatever the case of its letters. -/
def ofExactName? (text : List Char) : Option Format :=
  all.find? fun format => format.name.toList == text.map Char.toLower

/-- The format with this name, whatever the case of its letters and the white space around it. -/
def ofName (name : String) : Except UnknownFormat Format :=
  match ofExactName? (Text.trim name.toList) with
  | some format => .ok format
  | none => .error ⟨name⟩

/-- Show a template's tree. -/
def render (arena : Arena) (format : Format) (options : RenderOptions) : List Char :=
  match format with
  | json =>
    Value.Json.render (if options.pretty then .pretty else .compact) (Snapshot.ofArena arena)
  | yaml => Value.Yaml.render (Snapshot.ofArena arena)
  | drawing => Drawing.render options.lineNumbers arena.tree

end Format

end HamlTree
