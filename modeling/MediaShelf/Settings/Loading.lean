import MediaShelf.Settings.Environment
import MediaShelf.Settings.Format
import MediaShelf.Storage.Session

/-!
# Loading settings

The settings of a run are those that are built in, with a file over them and the environment over
both. The file is one that is asked for, which has to exist, or else the one at the usual place,
which need not, and which is written in TOML. The usual place is in the user's directory for
settings.
-/

namespace MediaShelf.Settings

/-- The layer of a file with some content, if it is one. -/
def layerOf? (format : SettingsFormat) : FileContent → Option Layer
  | .text s => format.layer? s
  | .binary _ => none
  | .absent => some {}

/-- The layer of a file that was asked for, if it is one. -/
def requestedLayer (path : Path) (content : FileContent) : Except SettingsError (Option Layer) :=
  if content == .absent then .error (.notAFile path)
  else
    match SettingsFormat.ofPath? path with
    | some format => .ok (layerOf? format content)
    | none => .error (.unknownFormat path)

/-- The user's directory for settings: the one that the environment names, as long as that is an
absolute path, and otherwise one in the user's home. -/
def userDirectory? (environment : Environment) : Option Path :=
  match ((environment.value? "XDG_CONFIG_HOME").map Path.mk).filter (·.isAbsolute) with
  | some directory => some directory
  | none =>
    match environment.value? "HOME" with
    | some "" => none
    | some home => some (Path.join ⟨home⟩ ⟨".config"⟩)
    | none => none

/-- The usual place of the settings file. -/
def usualPath? (environment : Environment) : Option Path :=
  (userDirectory? environment).map (·.join ⟨"shelf/config.toml"⟩)

/-- Reads the layer of the settings file. -/
def readLayer (requested usual : Option Path) : Session (Except SettingsError (Option Layer)) :=
  match requested, usual with
  | some path, _ => return requestedLayer path (← Session.readPath path)
  | none, some path => return .ok (layerOf? .toml (← Session.readPath path))
  | none, none => return .ok (some {})

/-- The settings of the layer of a file with the environment over it. What cannot be read in the
environment outweighs what cannot be read in the file. -/
def ofLayers (environment : Environment) (file : Option Layer) : Except SettingsError Settings :=
  match environment.layer?, file with
  | none, _ => .error .tornVariable
  | some _, none => .error .badValues
  | some above, some below =>
    match (above.onTopOf below).settings? with
    | some settings => settings.validate
    | none => .error .badValues

/-- Loads the settings of a run. -/
def load (requested : Option Path) (environment : Environment) :
    Session (Except SettingsError Settings) :=
  return (← readLayer requested (usualPath? environment)).bind (ofLayers environment)

end MediaShelf.Settings
