import MediaShelf.Storage.VolumeTable
import MediaShelf.Text.Numeral
import MediaShelf.Text.Search

/-!
# Surveys of a machine

A machine is asked about its directories before a task starts to work on files: for every path that
may come up, where it leads and what is there. Together with the table of mounted volumes this is
enough to answer the questions about directories and about volumes. How much room a volume has is
not surveyed, so that question fails, and only the volume that a file is on already can take it.
-/

namespace MediaShelf

/-- What is found where a path leads. -/
inductive Finding where
  /-- A directory, at a place without links. -/
  | directory (place : Path)
  /-- Something else, at a place without links. -/
  | other (place : Path)
  | nothing
  /-- The path cannot be followed. -/
  | blocked
deriving DecidableEq

/-- The place that was found, if there is one. -/
def Finding.place? : Finding → Option Path
  | directory place => some place
  | other place => some place
  | nothing => none
  | blocked => none

/-- A survey of some paths. -/
structure Survey where
  /-- What was found where the paths lead. -/
  findings : List (Path × Finding)
  mounts : VolumeTable
deriving DecidableEq

namespace Survey

/-- What was found where a path leads. -/
def finding (survey : Survey) (path : Path) : Finding :=
  (survey.findings.lookup path).getD .blocked

/-- Whether a path is a directory. -/
def isDir (survey : Survey) (path : Path) : Reply Bool :=
  match survey.finding path with
  | .directory _ => .answers true
  | .other _ => .answers false
  | .nothing => .answers false
  | .blocked => .fails path

/-- The volume that a path is on. -/
def volume? (survey : Survey) (path : Path) : Option UInt64 :=
  (survey.finding path).place?.bind survey.mounts.volume?

/-- Whether two paths are on one volume. -/
def sameVolume (survey : Survey) (a b : Path) : Reply Bool :=
  match survey.volume? a, survey.volume? b with
  | some va, some vb => .answers (va == vb)
  | some _, none => .fails b
  | none, _ => .fails a

/-- The filesystem of a survey. -/
def filesystem (survey : Survey) : Filesystem where
  isDir := survey.isDir
  freeBytes := .fails
  sameVolume := survey.sameVolume

end Survey

/-! ## Mounted volumes

The table of mounted volumes has a row for each of them. Its third column is the number of the
device in two parts, the fifth one the directory, in which blanks are written by their octal
numbers. -/

namespace VolumeTable

/-- The character that three octal digits stand for. -/
def octalChar? (a b c : Char) : Option Char :=
  if [a, b, c].all fun digit => '0' ≤ digit && digit ≤ '7' then
    some (Char.ofNat ((Text.digitValue a * 8 + Text.digitValue b) * 8 + Text.digitValue c))
  else none

/-- A directory without its escapes. -/
def unescape : List Char → List Char
  | '\\' :: a :: b :: c :: rest =>
    match octalChar? a b c with
    | some char => char :: unescape rest
    | none => '\\' :: unescape (a :: b :: c :: rest)
  | c :: rest => c :: unescape rest
  | [] => []

/-- The number of the volume on a device. -/
def deviceVolume? (device : List Char) : Option UInt64 :=
  match Text.partsAt ':' device with
  | [major, minor] => do
    return UInt64.ofNat ((← Text.readDigits major) * 4294967296 + (← Text.readDigits minor))
  | _ => none

/-- Reads a row of the table of mounted volumes. -/
def readMount (row : List Char) : Option (Path × UInt64) :=
  match Text.partsAt ' ' row with
  | _ :: _ :: device :: _ :: directory :: _ =>
    (deviceVolume? device).map fun volume => (⟨String.ofList (unescape directory)⟩, volume)
  | _ => none

/-- Reads the table of mounted volumes. -/
def ofMounts (text : String) : VolumeTable :=
  { directories := (Text.rows text.toList).filterMap readMount }

end VolumeTable

end MediaShelf
