import HamlTree.Toml.Data

/-!
# Toml.Table -- building the tables of a document

While a document is read, an entry is a finished value, a table that may still grow, or a list of
tables whose last one may still grow. A table is *implicit* until its own header is met, and
*dotted* if dotted keys made it. These two marks decide what may still be added:

* a header may open a table that is not there, or one that is implicit and not dotted;
* a dotted key may go through implicit tables only, and may add to a table only if dotted keys
  made it;
* a plain key may add to a table only if no dotted key made it;
* nothing may be added to a finished value, and no name is given twice.
-/

set_option autoImplicit false

namespace HamlTree.Toml

/-- An entry of a table that is being built. -/
inductive Item where
  | value (data : Data)
  | table (implicit dotted : Bool) (entries : List (String × Item))
  | tables (members : List (List (String × Item)))
deriving Repr

/-- The entries of a table, in the order they were added. -/
abbrev Entries := List (String × Item)

namespace Entries

/-- The entry with this name. -/
def find? (entries : Entries) (name : String) : Option Item :=
  (List.find? (fun entry => entry.1 == name) entries).map Prod.snd

/-- Put another item under a name that is there. -/
def replace (entries : Entries) (name : String) (item : Item) : Entries :=
  entries.map fun entry => if entry.1 == name then (name, item) else entry

/-- Change the table at the end of a path. Tables that are not there are made, implicit, and dotted if
the path is that of a dotted key. `action` is told whether the table is dotted; `here` says so of the
table at the start. -/
def descend (dotted : Bool) (action : Bool → Entries → Option Entries) :
    Bool → List String → Entries → Option Entries
  | here, [], entries => action here entries
  | _, name :: path, entries =>
    match entries.find? name with
    | none =>
      (descend dotted action dotted path []).map fun inner =>
        entries ++ [(name, .table true dotted inner)]
    | some (.value _) => none
    | some (.tables members) =>
      (descend dotted action false path (members.getLast?.getD [])).map fun inner =>
        entries.replace name (.tables (members.dropLast ++ [inner]))
    | some (.table implicit isDotted inner) =>
      if dotted && !implicit then none
      else
        (descend dotted action isDotted path inner).map fun inner =>
          entries.replace name (.table implicit isDotted inner)

/-- Add a value under a dotted or plain key. -/
def add (entries : Entries) (path : List String) (name : String) (data : Data) : Option Entries :=
  descend true (fun isDotted table =>
    if isDotted == path.isEmpty || (table.find? name).isSome then none
    else some (table ++ [(name, .value data)])) false path entries

/-- Add a value below the table whose header was met last. -/
def addBelow (entries : Entries) (header path : List String) (name : String) (data : Data) :
    Option Entries :=
  descend false (fun _ table => table.add path name data) false header entries

/-- Open the table of a header. -/
def openTable (entries : Entries) (path : List String) (name : String) : Option Entries :=
  descend false (fun _ table =>
    match table.find? name with
    | none => some (table ++ [(name, .table false false [])])
    | some (.table true false inner) => some (table.replace name (.table false false inner))
    | some _ => none) false path entries

/-- Open another table of a list of tables. -/
def openMember (entries : Entries) (path : List String) (name : String) : Option Entries :=
  descend false (fun _ table =>
    match table.find? name with
    | none => some (table ++ [(name, .tables [[]])])
    | some (.tables members) => some (table.replace name (.tables (members ++ [[]])))
    | some _ => none) false path entries

end Entries

mutual

/-- The value that an entry has in the end. -/
def Item.data : Item → Data
  | .value data => data
  | .table _ _ entries => .table (entriesData entries)
  | .tables members => .array (membersData members)

/-- The values of a table's entries. -/
def entriesData : List (String × Item) → List (String × Data)
  | [] => []
  | (name, item) :: rest => (name, item.data) :: entriesData rest

/-- The values of a list of tables. -/
def membersData : List (List (String × Item)) → List Data
  | [] => []
  | entries :: rest => .table (entriesData entries) :: membersData rest

end

end HamlTree.Toml
