import MediaShelf.Placement.Query
import MediaShelf.Script.Context
import MediaShelf.Text.Blank

/-!
# Settings

What the user can set: how files are named, and how destinations are chosen. Settings are checked
after they have been read: titles may not be cut to nothing, and a strategy needs a name.
-/

namespace MediaShelf

/-- How files are named. -/
structure RenameSettings where
  /-- Longer episode titles are cut. -/
  titleLimit : UInt64 := 33
  /-- Whether the next strategy is tried when one fails. -/
  deferOnError : Bool := true
  /-- The strategy that is tried first. -/
  strategy : String := "legacy"
  /-- The path of the script. -/
  script : Option Path := none
  /-- The name of the script. -/
  scriptName : String := "default"
deriving DecidableEq

/-- How destinations are chosen. -/
structure PlacementSettings where
  /-- Take folders without asking whether the file fits. -/
  skipSpaceChecks : Bool := false
  /-- The limit of a query in seconds; 0 is no limit. -/
  limitSeconds : UInt64 := 10
deriving DecidableEq

/-- What the user can set. -/
structure Settings where
  rename : RenameSettings := {}
  placement : PlacementSettings := {}
deriving DecidableEq

namespace RenameSettings

/-- How names are made under the settings. -/
def options (settings : RenameSettings) : NamingOptions :=
  ⟨settings.titleLimit.toNat⟩

end RenameSettings

namespace PlacementSettings

/-- How placement decides under the settings. -/
def options (settings : PlacementSettings) : PlacementOptions where
  skipSpaceChecks := settings.skipSpaceChecks
  queryLimit :=
    if settings.limitSeconds = 0 then none else some (1000 * settings.limitSeconds.toNat)

end PlacementSettings

/-- What can be wrong with settings. -/
inductive SettingsError where
  /-- The path of the settings is no file. -/
  | notAFile (path : Path)
  /-- The extension of the path is none of those that are read. -/
  | unknownFormat (path : Path)
  /-- The settings cannot be read, or one of them has no value of its type. -/
  | badValues
  /-- The environment has a variable whose value is torn. -/
  | tornVariable
  /-- Titles would be cut to nothing. -/
  | zeroTitleLimit
  /-- The strategy has no name. -/
  | blankStrategy
deriving DecidableEq

namespace SettingsError

/-- Whether the settings were read, and only then found to make no sense. -/
def isInvalid : SettingsError → Bool
  | zeroTitleLimit | blankStrategy => true
  | _ => false

/-- Whether a run breaks off, rather than to end with a complaint. -/
def isFatal (error : SettingsError) : Bool :=
  error == tornVariable

/-- What is wrong. -/
def reason : SettingsError → String
  | notAFile path => path.text ++ " is not a file"
  | unknownFormat path => "unsupported configuration format: " ++ path.text
  | badValues => "unable to extract values"
  | tornVariable => "unable to read the environment"
  | zeroTitleLimit => "rename.max_episode_title_length must be at least 1"
  | blankStrategy => "rename.strategy must not be empty"

/-- What the user is told. -/
def message (error : SettingsError) : String :=
  (if error.isInvalid then "invalid configuration: " else "unable to load configuration: ")
    ++ error.reason

end SettingsError

namespace Settings

/-- Checks settings that have been read. -/
def validate (settings : Settings) : Except SettingsError Settings :=
  if settings.rename.titleLimit = 0 then .error .zeroTitleLimit
  else if Text.isVisible settings.rename.strategy then .ok settings
  else .error .blankStrategy

theorem validate_eq_ok_iff {settings accepted : Settings} :
    settings.validate = .ok accepted ↔ settings = accepted ∧ settings.rename.titleLimit ≠ 0 ∧
      Text.isVisible settings.rename.strategy = true := by
  unfold validate
  split
  · next hzero => simp [hzero]
  · next hlimit =>
      split
      · next hvisible => simp [hlimit, hvisible]
      · next hblank => simp [hblank]

end Settings

end MediaShelf
