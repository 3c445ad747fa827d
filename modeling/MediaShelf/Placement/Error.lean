import MediaShelf.Path
import MediaShelf.Text.Numeral

/-!
# What can go wrong in placement

The first three errors are shown to users as they are. A query that fails or times out is an error
of the query; placement takes the folder for unusable then and goes on, so these two never come out
of it.
-/

namespace MediaShelf

/-- What can go wrong when a destination is looked for. -/
inductive PlacementError where
  /-- No cross reference links the file to an episode. -/
  | noCrossReferences
  /-- The show of the file has no series. -/
  | seriesNotFound
  /-- Neither a sibling nor a default destination is usable. -/
  | noDestination
  /-- No location of the file is in a known folder; the id of the file. -/
  | noLocation (fileId : UInt64)
  /-- A query about a path failed. -/
  | queryFailed (path : Path)
  /-- A query about a path did not answer in time. -/
  | queryTimedOut (path : Path)
deriving DecidableEq

namespace PlacementError

/-- What the user is told. -/
def message : PlacementError → String
  | noCrossReferences => "No xrefs"
  | seriesNotFound => "Series not Found"
  | noDestination => "Unable to resolve a destination"
  | noLocation fileId =>
    "file " ++ Text.ofNat fileId.toNat ++ " has no location in a known folder"
  | queryFailed path => "filesystem query failed: " ++ path.text
  | queryTimedOut path => "filesystem query timed out: " ++ path.text

/-- Whether another attempt may succeed. -/
def isRetryable : PlacementError → Bool
  | queryFailed _ | queryTimedOut _ => true
  | _ => false

end PlacementError

end MediaShelf
