import MediaShelf.Json.Record
import MediaShelf.Settings.Basic

/-!
# Layers of settings

Settings come from several places: they are built in, in a file, and in the environment. Each place
gives a layer, and a later layer goes over the earlier ones setting by setting: what it does not
mention stays as it is.

A layer has two sections. A section is normally an object with the settings by name; of a setting
given twice the last one counts, and unknown ones are passed over. It may also be an array with the
values of the settings in their order, of which the last ones may be missing; an array, or anything
else that is no object, replaces the section below it altogether.
-/

namespace MediaShelf

/-- What one place says about the two sections of the settings. -/
structure Layer where
  rename : Option Json := none
  placement : Option Json := none

namespace Layer

/-- The last of the values that an object gives for a key. -/
def lastValue? (members : List (String × Json)) (key : String) : Option Json :=
  members.reverse.lookup key

/-- The layer with the members of an object. -/
def ofMembers (members : List (String × Json)) : Layer :=
  ⟨lastValue? members "rename", lastValue? members "placement"⟩

/-- The layer that a document gives; a document has to be an object. -/
def ofJson? : Json → Option Layer
  | .obj members => some (ofMembers members)
  | _ => none

/-- A section over another one. -/
def sectionOver : Option Json → Option Json → Option Json
  | none, below => below
  | some (.obj above), some (.obj below) => some (.obj (below ++ above))
  | some above, _ => some above

/-- A layer over another one. -/
def onTopOf (above below : Layer) : Layer :=
  ⟨sectionOver above.rename below.rename, sectionOver above.placement below.placement⟩

/-- The settings of a section, by name. -/
def settingsOf (names : List String) : Option Json → Option (String → Option Json)
  | none => some fun _ => none
  | some (.obj members) => some (lastValue? members)
  | some (.arr items) => some fun name => (names.zip items).lookup name
  | some _ => none

/-- Reads a setting, if it is given, and takes the value that is built in otherwise. -/
def setting {α : Type} (read : Json → Option α) (fallback : α) : Option Json → Option α
  | some value => read value
  | none => some fallback

/-- Reads a path. -/
def path? (value : Json) : Option Path :=
  (Json.string? value).map Path.mk

/-- Reads the section about naming. -/
def renameSettings? (value : Option Json) : Option RenameSettings := do
  let given ← settingsOf
    ["max_episode_title_length", "defer_on_error", "strategy", "script", "script_name"] value
  let builtIn : RenameSettings := {}
  return {
    titleLimit := ← setting Json.uint64? builtIn.titleLimit (given "max_episode_title_length")
    deferOnError := ← setting Json.bool? builtIn.deferOnError (given "defer_on_error")
    strategy := ← setting Json.string? builtIn.strategy (given "strategy")
    script := ← setting (Json.nullable? path?) builtIn.script (given "script")
    scriptName := ← setting Json.string? builtIn.scriptName (given "script_name") }

/-- Reads the section about placement. -/
def placementSettings? (value : Option Json) : Option PlacementSettings := do
  let given ← settingsOf ["skip_disk_space_checks", "io_timeout_secs"] value
  let builtIn : PlacementSettings := {}
  return {
    skipSpaceChecks := ←
      setting Json.bool? builtIn.skipSpaceChecks (given "skip_disk_space_checks")
    limitSeconds := ← setting Json.uint64? builtIn.limitSeconds (given "io_timeout_secs") }

/-- Reads the settings of a layer, which goes over those that are built in. -/
def settings? (layer : Layer) : Option Settings := do
  return ⟨← renameSettings? layer.rename, ← placementSettings? layer.placement⟩

end Layer

end MediaShelf
