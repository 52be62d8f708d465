import HamlTree.Number.Double

/-!
# Toml.Data -- what a TOML document says

A document is a table of named values. Dates and times are kept in their written form, since
nothing here computes with them.
-/

set_option autoImplicit false

namespace HamlTree.Toml

/-- A value of a document. -/
inductive Data where
  | string (text : String)
  | integer (value : Int)
  | float (value : Number.Double)
  | boolean (value : Bool)
  | moment (text : String)
  | array (items : List Data)
  | table (entries : List (String × Data))
deriving Repr

end HamlTree.Toml
