import HamlTree.Directory
import HamlTree.Format
import HamlTree.Text.Lowercase
import HamlTree.Text.Quoted
import HamlTree.Toml.Document

/-!
# Settings -- how trees are shown, layer by layer

The settings start from built-in values. Files are laid over them in order, and single settings
over the files, wherever they were given. Tables are merged entry by entry, anything else is
replaced. Names of settings are compared in small letters, and unknown ones are ignored.

A setting may be given by a key: names with points between them, and places of a list in square
brackets, counted from 0, or from -1 backwards. On the way to it, what is no table or no list as
the key wants it becomes one.

A truth value may be given as such, as a number (other than zero is true) or as one of the words
in `truthOfWord?`. The format is a name, or a table with that name as its only entry.
-/

set_option autoImplicit false

namespace HamlTree

/-- How trees are shown. -/
structure OutputSettings where
  format : Format := .json
  pretty : Bool := true
  lineNumbers : Bool := false
deriving DecidableEq, Repr

namespace OutputSettings

/-- The switches of the formats. -/
def renderOptions (settings : OutputSettings) : RenderOptions :=
  ⟨settings.pretty, settings.lineNumbers⟩

end OutputSettings

/-- Why settings are refused. -/
inductive SettingsError where
  /-- A single setting is not given by a key. -/
  | badKey
  /-- A file is no document. -/
  | badFile (origin : String)
  /-- A file that has to be there is not. -/
  | missingFile (name : String)
  /-- A file is there and cannot be read. -/
  | unreadableFile (error : FileError)
  /-- A value is no truth value; `found` says what it is. -/
  | notTruthValue (found key : String) (origin : Option String)
  /-- No format has this name. -/
  | unknownFormat (name : String)
  /-- A format is given neither by name nor by a table with one entry. -/
  | misshapenFormat
  /-- The output settings are no table; `found` says what they are. -/
  | notTable (found : String)
  /-- The output settings are a list that breaks off. -/
  | shortList (length : Nat)
  /-- An output setting is gone. -/
  | missingField (name : String)
deriving DecidableEq, Repr

namespace SettingsError

/-- The wording of an error, without the place it was found in. -/
def message : SettingsError → String
  | badKey => "invalid key"
  | badFile _ => "invalid document"
  | missingFile name => "configuration file \"" ++ name ++ "\" not found"
  | unreadableFile error => error.message
  | notTruthValue found _ _ => "invalid type: " ++ found ++ ", expected a boolean"
  | unknownFormat name => "enum Format does not have variant constructor " ++ name
  | misshapenFormat =>
    "value of enum Format should be represented by either string or table with exactly one key"
  | notTable found => "invalid type: " ++ found ++ ", expected struct OutputConfig"
  | shortList length =>
    "invalid length " ++ length.repr ++ ", expected struct OutputConfig with 3 elements"
  | missingField name => "missing field `" ++ name ++ "`"

/-- The wording of an error, with the place it was found in. -/
def display (error : SettingsError) : String :=
  match error with
  | notTruthValue _ key origin =>
    error.message ++ " for key `" ++ key ++ "`" ++ (origin.elim "" (" in " ++ ·))
  | badFile origin => error.message ++ " in " ++ origin
  | _ => error.message

end SettingsError

namespace Settings

/-! ## Keys -/

/-- One step of a key. -/
inductive Step where
  | name (text : String)
  | index (value : Int)
deriving DecidableEq, Repr

/-- The way to a setting, from the whole of the settings. -/
abbrev Key := List Step

namespace Key

/-- A character of a name in a key. -/
def isNameChar (c : Char) : Bool :=
  Text.isLatinAlphanumeric c || c == ' ' || c == '_' || c == '-'

/-- A blank around an index. -/
def isBlank (c : Char) : Bool :=
  c == ' ' || c == '\t'

/-- An index fits a machine word with a sign. -/
def isIndex (value : Int) : Bool :=
  -9223372036854775808 ≤ value && value ≤ 9223372036854775807

/-- Read an index and the bracket behind it. -/
def readIndex? (text : List Char) : Option (Int × List Char) :=
  let (negative, number) :=
    match text.dropWhile isBlank with
    | '-' :: rest => (true, rest)
    | rest => (false, rest)
  match Number.ofDigits? 10 (number.takeWhile Number.isDigit),
    (number.dropWhile Number.isDigit).dropWhile isBlank with
  | some magnitude, ']' :: rest =>
    let value : Int := if negative then -magnitude else magnitude
    if isIndex value then some (value, rest) else none
  | _, _ => none

/-- Read steps, at most `fuel` of them: names behind points and indices in brackets. -/
def readSteps? : Nat → List Char → Option Key
  | _, [] => some []
  | 0, _ => none
  | fuel + 1, '.' :: rest =>
    let name := rest.takeWhile isNameChar
    if name.isEmpty then none
    else (readSteps? fuel (rest.dropWhile isNameChar)).map (.name (String.ofList name) :: ·)
  | fuel + 1, '[' :: rest =>
    match readIndex? rest with
    | some (index, after) => (readSteps? fuel after).map (.index index :: ·)
    | none => none
  | _ + 1, _ => none

/-- Read a key. It starts with a name, as if a point stood in front. -/
def ofText? (text : String) : Option Key :=
  readSteps? (text.toList.length + 1) ('.' :: text.toList)

end Key

/-! ## Values and merging -/

/-- A single value. -/
inductive Scalar where
  | boolean (value : Bool)
  | integer (value : Int)
  | float (value : Number.Double)
  | string (value : String)
deriving DecidableEq, Repr

/-- A value in a layer, with the file it came from. -/
inductive Setting where
  /-- A place in a list that nothing was laid on. -/
  | unset
  | scalar (origin : Option String) (value : Scalar)
  | array (origin : Option String) (items : List Setting)
  | table (origin : Option String) (entries : List (String × Setting))
deriving Repr

namespace Setting

/-- A name as settings are stored under. -/
def storedName (name : String) : String :=
  String.ofList (Text.lowercase name.toList)

/-- The table without entries. -/
def emptyTable : Setting := table none []

/-- The entries of a table; anything else has none. -/
def entries : Setting → List (String × Setting)
  | table _ entries => entries
  | _ => []

/-- The items of a list; anything else has none. -/
def items : Setting → List Setting
  | array _ items => items
  | _ => []

/-- Where a table comes from; anything else starts as a table from nowhere. -/
def tableOrigin : Setting → Option String
  | table origin _ => origin
  | _ => none

/-- Where a list comes from; anything else starts as a list from nowhere. -/
def arrayOrigin : Setting → Option String
  | array origin _ => origin
  | _ => none

/-- The setting stored under a name. -/
def get? (setting : Setting) (name : String) : Option Setting :=
  (setting.entries.find? fun entry => entry.1 == storedName name).map Prod.snd

/-- Store a setting under a name. What is no table becomes one. -/
def store (setting : Setting) (name : String) (value : Setting) : Setting :=
  let stored := storedName name
  let others := setting.entries.filter fun entry => entry.1 != stored
  table setting.tableOrigin (others ++ [(stored, value)])

mutual

/-- Lay a value over what is stored under a name. Tables are merged, anything else is replaced. -/
def put (setting : Setting) (name : String) : Setting → Setting
  | .table _ incoming => setting.store name (putAll ((setting.get? name).getD emptyTable) incoming)
  | .unset => setting.store name .unset
  | .scalar origin value => setting.store name (.scalar origin value)
  | .array origin items => setting.store name (.array origin items)

/-- Lay entries over a table. -/
def putAll (setting : Setting) : List (String × Setting) → Setting
  | [] => setting
  | (name, value) :: rest => putAll (setting.put name value) rest

end

/-- The place in a list of this length that an index stands for, which may lie behind its end. -/
def place? (index : Int) (length : Nat) : Option Nat :=
  match index with
  | .ofNat place => some place
  | .negSucc back => if back < length then some (length - 1 - back) else none

/-- Change a place of a list. What is no list becomes one, and a list that is too short grows. An
index before the start of the list changes nothing. -/
def updateAt (setting : Setting) (index : Int) (change : Setting → Setting) : Setting :=
  match place? index setting.items.length with
  | none => setting
  | some place =>
    let grown := setting.items ++ List.replicate (place + 1 - setting.items.length) unset
    array setting.arrayOrigin (grown.modify place change)

/-- Lay a value over what is stored under a key. A place of a list is replaced. -/
def putAt (setting : Setting) (value : Setting) : Key → Setting
  | [] => value
  | [.name name] => setting.put name value
  | .name name :: key => setting.store name (putAt ((setting.get? name).getD unset) value key)
  | .index index :: key => setting.updateAt index fun item => putAt item value key

mutual

/-- A value of a document as a setting. Moments count as text. -/
def ofData (origin : Option String) : Toml.Data → Setting
  | .string text => scalar origin (.string text)
  | .integer value => scalar origin (.integer value)
  | .float value => scalar origin (.float value)
  | .boolean value => scalar origin (.boolean value)
  | .moment text => scalar origin (.string text)
  | .array items => array origin (ofItems origin items)
  | .table entries => table origin (ofEntries origin entries)

/-- The items of an array as settings. -/
def ofItems (origin : Option String) : List Toml.Data → List Setting
  | [] => []
  | item :: rest => ofData origin item :: ofItems origin rest

/-- The entries of a table as settings. -/
def ofEntries (origin : Option String) : List (String × Toml.Data) → List (String × Setting)
  | [] => []
  | (name, data) :: rest => (name, ofData origin data) :: ofEntries origin rest

end

end Setting

/-! ## Reading settings -/

/-- The truth value that a word in small letters stands for. -/
def truthOfWord? (word : String) : Option Bool :=
  if ["1", "true", "on", "yes"].contains word then some true
  else if ["0", "false", "off", "no"].contains word then some false
  else none

/-- A text in quotes, as errors show it. -/
def shownText (text : List Char) : String :=
  "string " ++ String.ofList (Text.quoted text)

/-- What a single value is, as errors show it. -/
def Scalar.shown : Scalar → String
  | boolean value => "boolean `" ++ (if value then "true" else "false") ++ "`"
  | integer value => "integer `" ++ (if value < 0 then "-" else "") ++ value.natAbs.repr ++ "`"
  | float value => "floating point `" ++ String.ofList value.text ++ "`"
  | string value => shownText value.toList

/-- Read a truth value; `key` is where it is stored. -/
def readTruth (key : String) : Setting → Except SettingsError Bool
  | .unset => .error (.notTruthValue "unit value" key none)
  | .scalar _ (.boolean value) => .ok value
  | .scalar _ (.integer value) => .ok (value != 0)
  | .scalar _ (.float value) => .ok (!value.isZero)
  | .scalar origin (.string value) =>
    let word := Text.lowercase value.toList
    match truthOfWord? (String.ofList word) with
    | some truth => .ok truth
    | none => .error (.notTruthValue (shownText word) key origin)
  | .array origin _ => .error (.notTruthValue "sequence" key origin)
  | .table origin _ => .error (.notTruthValue "map" key origin)

/-- The format with this name, whatever the case of its letters. -/
def formatNamed (name : String) : Except SettingsError Format :=
  match Format.ofExactName? name.toList with
  | some format => .ok format
  | none => .error (.unknownFormat name)

/-- Read a format. -/
def readFormat : Setting → Except SettingsError Format
  | .scalar _ (.string name) => formatNamed name
  | .table _ [(name, _)] => formatNamed name
  | _ => .error .misshapenFormat

/-- A field that has to be there. -/
def present {α : Type} (name : String) : Option α → Except SettingsError α
  | some value => .ok value
  | none => .error (.missingField name)

/-- Read a field if it is there. -/
def readField {α : Type} (settings : Setting) (name : String)
    (read : Setting → Except SettingsError α) : Except SettingsError (Option α) :=
  match settings.get? name with
  | none => .ok none
  | some field => (read field).map some

/-- Read the output settings from a table: what is there first, then what is missing. -/
def readTable (settings : Setting) : Except SettingsError OutputSettings := do
  let format ← readField settings "format" readFormat
  let pretty ← readField settings "pretty" (readTruth "output.pretty")
  let lineNumbers ←
    readField settings "show_line_numbers" (readTruth "output.show_line_numbers")
  return {
    format := ← present "format" format
    pretty := ← present "pretty" pretty
    lineNumbers := ← present "show_line_numbers" lineNumbers }

/-- Read the output settings from a list, in the order of the fields. -/
def readList : List Setting → Except SettingsError OutputSettings
  | [] => .error (.shortList 0)
  | format :: rest => do
    let format ← readFormat format
    match rest with
    | [] => .error (.shortList 1)
    | pretty :: rest =>
      let pretty ← readTruth "output[1]" pretty
      match rest with
      | [] => .error (.shortList 2)
      | lineNumbers :: _ => return ⟨format, pretty, ← readTruth "output[2]" lineNumbers⟩

/-- Read the output settings. -/
def readOutput : Setting → Except SettingsError OutputSettings
  | .table origin entries => readTable (.table origin entries)
  | .array _ items => readList items
  | .unset => .error (.notTable "unit value")
  | .scalar _ value => .error (.notTable value.shown)

/-! ## Layers -/

/-- Something laid over the built-in values. -/
inductive Layer where
  /-- A file with its name and text. -/
  | file (origin : String) (text : List Char)
  /-- A file that is not there. -/
  | absent (name : String) (optional : Bool)
  /-- A file that cannot be read. -/
  | unreadable (error : FileError)
  /-- A single setting. -/
  | single (key : String) (value : Scalar)
deriving Repr

/-- The built-in values. -/
def builtIn : Setting :=
  let defaults : OutputSettings := {}
  .table none [("output", .table none
    [("format", .scalar none (.string defaults.format.name)),
     ("pretty", .scalar none (.boolean defaults.pretty)),
     ("show_line_numbers", .scalar none (.boolean defaults.lineNumbers))])]

/-- Lay the entries of a file over the settings. A name that is a key counts as one. -/
def layEntries (settings : Setting) : List (String × Setting) → Setting
  | [] => settings
  | (name, value) :: rest =>
    layEntries
      (match Key.ofText? name with
       | some key => settings.putAt value key
       | none => settings.put name value) rest

/-- Lay the files over the settings, in order. -/
def layFiles (settings : Setting) : List Layer → Except SettingsError Setting
  | [] => .ok settings
  | .file origin text :: rest =>
    match Toml.Document.read? text with
    | none => .error (.badFile origin)
    | some entries => layFiles (layEntries settings (Setting.ofEntries (some origin) entries)) rest
  | .absent name optional :: rest =>
    if optional then layFiles settings rest else .error (.missingFile name)
  | .unreadable error :: _ => .error (.unreadableFile error)
  | .single _ _ :: rest => layFiles settings rest

/-- The single settings among the layers, with their keys. -/
def singles : List Layer → Except SettingsError (List (Key × Scalar))
  | [] => .ok []
  | .single text value :: rest =>
    match Key.ofText? text with
    | none => .error .badKey
    | some parts => (singles rest).map ((parts, value) :: ·)
  | _ :: rest => singles rest

/-- The settings that the layers amount to. -/
def load (layers : List Layer) : Except SettingsError OutputSettings := do
  let single ← singles layers
  let filed ← layFiles builtIn layers
  let final := single.foldl
    (fun settings (key, value) => settings.putAt (.scalar none value) key) filed
  readOutput ((final.get? "output").getD Setting.emptyTable)

end Settings

end HamlTree
