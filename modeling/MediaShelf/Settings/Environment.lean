import MediaShelf.Settings.Layer
import MediaShelf.Settings.VariableValue
import MediaShelf.Text.Ascii
import MediaShelf.Text.Search

/-!
# Settings in the environment

A variable whose name starts with `SHELF_` is a setting. In the rest of the name `__` separates the
section from the setting, and the case of the letters has no meaning. The value is what its text
spells. Of several variables for one setting the last one counts. If a value cannot be read, no
settings can be loaded.
-/

namespace MediaShelf

/-- The environment of a run. -/
structure Environment where
  /-- The variables, in order. -/
  entries : List (String × String) := []
deriving DecidableEq

namespace Environment

/-- The variable that an entry such as `NAME=value` sets; an entry without a name sets none. -/
def ofEntry? (entry : List Char) : Option (String × String) :=
  match entry.dropWhile (· != '=') with
  | _ :: value =>
    let name := entry.takeWhile (· != '=')
    if name.isEmpty then none else some (String.ofList name, String.ofList value)
  | [] => none

/-- The environment that a block of entries describes, each of which ends with a null character. -/
def ofBlock (block : String) : Environment :=
  ⟨(Text.partsAt '\x00' block.toList).filterMap ofEntry?⟩

/-- The value of a variable. -/
def value? (environment : Environment) (name : String) : Option String :=
  environment.entries.lookup name

/-- What the names of settings start with. -/
def namePrefix : String := "SHELF_"

/-- The keys that a name of a variable stands for, from the outside in. -/
def keys? (name : String) : Option (List String) :=
  match Text.dropWord namePrefix.toList (Text.trim name.toList) with
  | some rest =>
    let keys := Text.partsAt '.' (Text.trim (Text.replaceAll ['_', '_'] ['.'] rest))
    if keys.any (·.isEmpty) then none
    else some (keys.map fun key => Text.lowerAscii (String.ofList key))
  | none => none

/-- A value inside of objects with one key each. -/
def nest (value : Json) : List String → Json
  | [] => value
  | key :: rest => .obj [(key, nest value rest)]

/-- The layer of one variable, unless its value cannot be read. -/
def layerOf? (name value : String) : Option Layer :=
  match keys? name with
  | some (key :: rest) =>
    (VariableValue.parse? value).map fun value => .ofMembers [(key, nest value rest)]
  | _ => some {}

/-- The layer of the environment, unless the value of one of its variables cannot be read. -/
def layer? (environment : Environment) : Option Layer :=
  environment.entries.foldlM (fun below entry =>
    (layerOf? entry.1 entry.2).map fun above => above.onTopOf below) {}

end Environment

end MediaShelf
