import MediaShelf.Json.Basic

/-!
# Tables in TOML

A document is a table of keys with values and further tables. A table comes into being in one of
three ways, and that decides how it may grow. A header opens a table once, and only the rows below
the header fill it. The tables on the way to it are implied, and a later header may still open them.
A key with dots makes the tables on its way, and no header opens those. A header in double brackets
adds a table to a list, and paths go on through the last table of it.

Nothing is ever given twice: whatever a key stands for already, it is an error to give it again.
-/

namespace MediaShelf.Toml

/-- How a table comes into being. -/
inductive Origin where
  /-- By a header, or by braces. -/
  | opened
  /-- On the way to a table that a header opens. -/
  | implied
  /-- On the way of a key with dots. -/
  | dotted
deriving DecidableEq

/-- What a key in a table stands for. -/
inductive Item where
  | value (json : Json)
  /-- A table with its entries. -/
  | table (origin : Origin) (entries : List (String × Item))
  /-- A list of tables with their entries. -/
  | tables (items : List (List (String × Item)))

/-- The entries of a table. -/
abbrev Entries := List (String × Item)

namespace Entries

/-- Puts an item in place of the one that a key stands for. -/
def replace (entries : Entries) (key : String) (item : Item) : Entries :=
  entries.map fun entry => if entry.1 = key then (key, item) else entry

/-- Adds an item for a key that stands for nothing yet. -/
def insert? (entries : Entries) (key : String) (item : Item) : Option Entries :=
  match entries.lookup key with
  | some _ => none
  | none => some (entries ++ [(key, item)])

/-- Changes the table at the end of a path. The path of a key with dots does not go through tables
that have been opened, and makes its own. -/
def change (isDotted : Bool) (edit : Origin → Entries → Option Entries) (origin : Origin)
    (entries : Entries) : List String → Option Entries
  | [] => edit origin entries
  | key :: path =>
    match entries.lookup key with
    | none => do
      let origin := if isDotted then .dotted else .implied
      return entries ++ [(key, .table origin (← change isDotted edit origin [] path))]
    | some (.table origin inner) =>
      if isDotted && origin = .opened then none
      else (change isDotted edit origin inner path).map fun inner =>
        entries.replace key (.table origin inner)
    | some (.tables items) =>
      match items.reverse with
      | last :: others => (change isDotted edit .opened last path).map fun last =>
        entries.replace key (.tables (others.reverse ++ [last]))
      | [] => none
    | some (.value _) => none

/-- Opens a table. -/
def openTable (key : String) (_ : Origin) (entries : Entries) : Option Entries :=
  match entries.lookup key with
  | some (.table .implied inner) => some (entries.replace key (.table .opened inner))
  | some _ => none
  | none => some (entries ++ [(key, .table .opened [])])

/-- Adds a table to a list. -/
def addTable (key : String) (_ : Origin) (entries : Entries) : Option Entries :=
  match entries.lookup key with
  | some (.tables items) => some (entries.replace key (.tables (items ++ [[]])))
  | some _ => none
  | none => some (entries ++ [(key, .tables [[]])])

/-- Gives a key a value. Behind a path with dots, the table has to be one that such a path made. -/
def setValue (isDotted : Bool) (key : String) (json : Json) (origin : Origin) (entries : Entries) :
    Option Entries :=
  if isDotted && origin ≠ .dotted then none else entries.insert? key (.value json)

/-- Gives a key at the end of a path with dots a value. -/
def setAt (path : List String) (key : String) (json : Json) (origin : Origin) (entries : Entries) :
    Option Entries :=
  change true (setValue (!path.isEmpty) key json) origin entries path

end Entries

mutual

/-- The value that an item stands for. -/
def Item.toJson : Item → Json
  | .value json => json
  | .table _ entries => .obj (entriesToMembers entries)
  | .tables items => .arr (tablesToJson items)

/-- The members that the entries of a table stand for. -/
def entriesToMembers : List (String × Item) → List (String × Json)
  | [] => []
  | (key, item) :: entries => (key, item.toJson) :: entriesToMembers entries

/-- The objects that a list of tables stands for. -/
def tablesToJson : List (List (String × Item)) → List Json
  | [] => []
  | entries :: items => .obj (entriesToMembers entries) :: tablesToJson items

end

end MediaShelf.Toml
