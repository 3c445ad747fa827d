import MediaShelf.CommandLine.Help
import MediaShelf.CommandLine.Run
import MediaShelf.Storage.Survey

/-!
# The program

Runs a request on the machine: arguments, environment, files and directories come from there, and
the report goes to standard output. What the request means is settled elsewhere.
-/

namespace MediaShelf.CommandLine

/-- The content of some bytes. -/
def contentOf (bytes : ByteArray) : FileContent :=
  match String.fromUTF8? bytes with
  | some s => .text s
  | none => .binary bytes.toList

/-- Reads what a path holds. -/
def readContent (path : Path) : IO FileContent := do
  if path.text.contains '\x00' then return .absent
  try
    return contentOf (← IO.FS.readBinFile path.text)
  catch _ => return .absent

/-- Reads a file of which the program needs to know only its text. -/
def readSystemText (name : String) : IO String := do
  match ← readContent ⟨name⟩ with
  | .text s => return s
  | .binary _ => return ""
  | .absent => return ""

/-- Finds out where a path leads. -/
def lookAt (path : Path) : IO Finding := do
  if path.text.contains '\x00' then return .blocked
  try
    let place ← IO.FS.realPath path.text
    if ← place.isDir then return .directory ⟨place.toString⟩
    return .other ⟨place.toString⟩
  catch
    | .noFileOrDirectory .. => return .nothing
    | _ => return .blocked

/-- Surveys some paths. -/
def survey (paths : List Path) : IO Survey := do
  let mounts := VolumeTable.ofMounts (← readSystemText "/proc/self/mountinfo")
  return ⟨← paths.mapM fun path => return (path, ← lookAt path), mounts⟩

/-- Holds a session with the machine. -/
def hold {α : Type} : Session α → IO α
  | .done a => return a
  | .read path next => do hold (next (← readContent path))
  | .inspect paths next => do hold (next (← survey paths).filesystem)

/-- Writes what a run leaves behind, and gives the status. -/
def write (outcome : Outcome) : IO UInt32 := do
  IO.print outcome.report.text
  IO.eprint outcome.complaint
  return outcome.status

end MediaShelf.CommandLine

open MediaShelf.CommandLine in
/-- The program. -/
def main (arguments : List String) : IO UInt32 := do
  let environment := MediaShelf.Environment.ofBlock (← readSystemText "/proc/self/environ")
  match Request.ofArguments environment arguments with
  | some (.run invocation) =>
    match ← hold (invocation.run environment fun _ => 0) with
    | some outcome => write outcome
    | none => return 1
  | some .help => IO.print helpText; return 0
  | some .version => IO.print versionText; return 0
  | none => IO.eprint usageText; return 2
