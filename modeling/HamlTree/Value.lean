/-!
# Value -- data made of records, lists and scalars

The form in which a tree leaves the library: every printer works on a `Value` and knows nothing
about templates. The fields of a record stand in the order in which they are printed.
-/

set_option autoImplicit false

namespace HamlTree

/-- A record, a list or a scalar. -/
inductive Value where
  | null
  | bool (value : Bool)
  | number (value : Nat)
  | string (value : String)
  | list (items : List Value)
  | record (fields : List (String × Value))
deriving Repr

namespace Value

/-- A text that may be missing. -/
def ofOption : Option String → Value
  | some text => string text
  | none => null

/-- A list of texts. -/
def ofStrings (texts : List String) : Value :=
  list (texts.map string)

end Value

end HamlTree
