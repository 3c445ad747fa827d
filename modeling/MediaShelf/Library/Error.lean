import MediaShelf.Path
import MediaShelf.Text.Numeral

/-!
# What can go wrong when files are named and placed

What a strategy says about its failure is passed on word for word.
-/

namespace MediaShelf

/-- What can go wrong when a file is named, placed or planned. -/
inductive LibraryError where
  /-- The strategy has no script to run. -/
  | scriptUnavailable
  /-- The script at a path could not be read. -/
  | scriptUnreadable (path : Path)
  /-- The file is not linked to any episode. -/
  | noEpisodes
  /-- The catalog has no show with the id. -/
  | showNotFound (id : UInt64)
  /-- A strategy could not name the file, for a reason. -/
  | notNamed (reason : String)
  /-- A strategy could not place the file, for a reason. -/
  | notPlaced (reason : String)
  /-- There is no strategy at all; the one that was asked for. -/
  | noStrategy (id : String)
  /-- A file could not be planned, for a reason. -/
  | notPlanned (fileId : UInt64) (reason : String)
deriving DecidableEq

namespace LibraryError

/-- What the user is told. -/
def message : LibraryError → String
  | scriptUnavailable => "no renaming script is available"
  | scriptUnreadable path => "unable to read script " ++ path.text
  | noEpisodes => "file has no linked episodes"
  | showNotFound id => "show " ++ Text.ofNat id.toNat ++ " not found"
  | notNamed reason => reason
  | notPlaced reason => reason
  | noStrategy id => "no renamer available for strategy `" ++ id ++ "`"
  | notPlanned fileId reason => "unable to plan file " ++ Text.ofNat fileId.toNat ++ ": " ++ reason

/-- Whether another attempt may succeed. -/
def isRetryable : LibraryError → Bool
  | scriptUnreadable _ => true
  | _ => false

end LibraryError

end MediaShelf
