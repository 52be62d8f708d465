import HamlTree.Value
import HamlTree.Value.Yaml.Scalar

/-!
# Value.Yaml -- printing a value as YAML in block style

Each field of a record has a line of its own, and a record inside a record stands two blanks
deeper. The items of a list stand under the name of the list without further blanks, each after `-
`. Empty lists and records are written `[]` and `{}`. Nothing is folded, so every text is on as
many lines as it has.
-/

set_option autoImplicit false

namespace HamlTree.Value.Yaml

/-- End the line, unless the text has already done so. -/
def endLine (text : List Char) : List Char :=
  if text.getLast?.any isBreak then text else text ++ ['\n']

mutual

/-- What follows `key:` of a record `indent` blanks in. -/
def printField (indent : Nat) : Value → List Char
  | .null => " null\n".toList
  | .bool true => " true\n".toList
  | .bool false => " false\n".toList
  | .number n => ' ' :: n.repr.toList ++ ['\n']
  | .string text => ' ' :: endLine (printScalar (indent + 2) text.toList)
  | .list [] => " []\n".toList
  | .list (item :: rest) => '\n' :: printItems indent (item :: rest)
  | .record [] => " \x7b\x7d\n".toList
  | .record ((name, value) :: rest) =>
    '\n' :: blanks (indent + 2) ++ name.toList ++ ':' :: printField (indent + 2) value ++
      printFields (indent + 2) rest

/-- What follows `- ` of an item `indent` blanks in. The first field of a record, and the first item
of a list, follows on the same line. -/
def printItem (indent : Nat) : Value → List Char
  | .null => "null\n".toList
  | .bool true => "true\n".toList
  | .bool false => "false\n".toList
  | .number n => n.repr.toList ++ ['\n']
  | .string text => endLine (printScalar (indent + 2) text.toList)
  | .list [] => "[]\n".toList
  | .list (item :: rest) => '-' :: ' ' :: printItem (indent + 2) item ++ printItems (indent + 2) rest
  | .record [] => "\x7b\x7d\n".toList
  | .record ((name, value) :: rest) =>
    name.toList ++ ':' :: printField (indent + 2) value ++ printFields (indent + 2) rest

/-- Items of a list, each on a new line. -/
def printItems (indent : Nat) : List Value → List Char
  | [] => []
  | item :: rest =>
    blanks indent ++ '-' :: ' ' :: printItem indent item ++ printItems indent rest

/-- Fields of a record, each on a new line. -/
def printFields (indent : Nat) : List (String × Value) → List Char
  | [] => []
  | (name, value) :: rest =>
    blanks indent ++ name.toList ++ ':' :: printField indent value ++ printFields indent rest

end

/-- A value as YAML. -/
def render : Value → List Char
  | .record ((name, value) :: rest) =>
    name.toList ++ ':' :: printField 0 value ++ printFields 0 rest
  | .list (item :: rest) => printItems 0 (item :: rest)
  | .string text => endLine (printScalar 2 text.toList)
  | value => (printField 0 value).tail

end HamlTree.Value.Yaml
