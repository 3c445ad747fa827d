import MediaShelf.Json.Range
import MediaShelf.Json.StandIn
import MediaShelf.Path
import MediaShelf.Settings.Layer
import MediaShelf.Text.Ascii
import MediaShelf.Toml.Parser
import MediaShelf.Yaml.Parser

/-!
# Formats of settings files

A settings file is written in TOML, YAML or JSON, and its extension tells in which of them, whatever
the case of its letters. All three give a document of one kind, so nothing behind this module knows
which one it was.

In JSON, a document that is nested very deep, or that holds a number out of range or a string that
stands for no text, is refused as a whole, even if that stands where no setting is.
-/

namespace MediaShelf

/-- A format of settings files. -/
inductive SettingsFormat where
  | toml
  | yaml
  | json
deriving DecidableEq

namespace SettingsFormat

/-- The format that an extension stands for. -/
def ofExtension? (extension : String) : Option SettingsFormat :=
  match Text.lowerAscii extension with
  | "toml" => some toml
  | "yaml" => some yaml
  | "yml" => some yaml
  | "json" => some json
  | _ => none

/-- The format of a file. -/
def ofPath? (path : Path) : Option SettingsFormat :=
  path.extension?.bind ofExtension?

/-- How deep a JSON document may be nested. -/
def nestingLimit : Nat := 127

mutual

/-- Whether a value is nested no deeper than a limit, all its numbers are in range and all its
strings are texts. -/
def isSound (limit : Nat) : Json → Bool
  | .null => true
  | .bool _ => true
  | .int n => Json.isInRange (Text.ofInt n).toList
  | .decimal spelling => Json.isInRange spelling.toList
  | .str _ => true
  | .unreadable => false
  | .arr items => 0 < limit && areSound (limit - 1) items
  | .obj members => 0 < limit && membersAreSound (limit - 1) members

/-- Whether all items are sound. -/
def areSound (limit : Nat) : List Json → Bool
  | [] => true
  | item :: items => isSound limit item && areSound limit items

/-- Whether the values of all members are sound. -/
def membersAreSound (limit : Nat) : List (String × Json) → Bool
  | [] => true
  | (_, value) :: members => isSound limit value && membersAreSound limit members

end

/-- Whether there are natural numbers in a format that have no sign. -/
def hasMarks : SettingsFormat → Bool
  | toml => false
  | yaml => true
  | json => true

/-- Reads a document in a format. -/
def parse : SettingsFormat → String → Option Json
  | toml, text => Toml.parse text.toList
  | yaml, text => Yaml.parse text.toList
  | json, text => (Json.parse? text).filter (isSound nestingLimit)

/-- Reads a layer of settings in a format. -/
def layer? (format : SettingsFormat) (text : String) : Option Layer :=
  ((format.parse text).bind (Json.settledDocument? format.hasMarks)).bind Layer.ofJson?

end SettingsFormat

end MediaShelf
