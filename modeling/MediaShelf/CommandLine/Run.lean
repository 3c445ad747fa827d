import MediaShelf.Catalog.Codec
import MediaShelf.CommandLine.Report
import MediaShelf.CommandLine.Request
import MediaShelf.Library.Loading
import MediaShelf.Settings.Loading

/-!
# Running a task

A run loads the settings, sets up the library with the script, reads the snapshot, selects the files
and only then works on them; the first of these steps that fails ends the run, with nothing
reported. A file without a result does not end the run, but it makes the whole run fail in the end.
An environment that cannot be read breaks the run off, which shows in the status.

Nothing is ever moved. The three tasks differ only in what they find out about a file, and planning
works on many files at the same time, so the order of its report is decided by a schedule.
-/

namespace MediaShelf.CommandLine

/-- Why a run fails. -/
inductive Failure where
  /-- The settings could not be loaded. -/
  | settings (error : SettingsError)
  /-- The library could not be set up. -/
  | library (error : LibraryError)
  /-- The snapshot at a path could not be read. -/
  | snapshot (path : Path)
  /-- The snapshot has no file with the id that was asked for. -/
  | unknownFile (id : UInt64)
  /-- Some files have no result. -/
  | files (count : Nat)
deriving DecidableEq

/-- What the user is told. -/
def Failure.message : Failure → String
  | settings _ => "unable to load configuration"
  | library _ => "unable to set up renaming strategies"
  | snapshot path => "unable to read snapshot " ++ path.text
  | unknownFile id => "file " ++ Text.ofNat id.toNat ++ " is not in the snapshot"
  | files count => Text.ofNat count ++ " file(s) failed"

/-- Whether the run breaks off. -/
def Failure.isFatal : Failure → Bool
  | settings error => error.isFatal
  | _ => false

/-- What a run leaves behind. -/
structure Outcome where
  report : Report := {}
  /-- Why the run failed, if it did. -/
  failure : Option Failure := none

namespace Outcome

/-- The outcome of a run that ends before any file is worked on. -/
def ofFailure (failure : Failure) : Outcome :=
  ⟨{}, some failure⟩

/-- The outcome of a run that ends with a report. -/
def ofReport (report : Report) : Outcome :=
  ⟨report, if report.failures = 0 then none else some (.files report.failures)⟩

/-- The status of the program. -/
def status (outcome : Outcome) : UInt32 :=
  match outcome.failure with
  | some failure => if failure.isFatal then 101 else 1
  | none => 0

/-- What is written about a failure. -/
def complaint (outcome : Outcome) : String :=
  match outcome.failure with
  | some failure =>
    (if failure.isFatal then "fatal: " else "error: ") ++ failure.message ++ "\n"
  | none => ""

end Outcome

/-- Settings with another script, if there is one. -/
def withScript (settings : Settings) : Option Path → Settings
  | some path => { settings with rename := { settings.rename with script := some path } }
  | none => settings

/-- The JSON value that a file holds. -/
def documentOf : FileContent → Option Json
  | .text s => Json.parse? s
  | .binary bytes => Json.parseBytes? bytes
  | .absent => none

/-- Reads a snapshot. -/
def loadSnapshot (path : Path) : Session (Except Failure Snapshot) := do
  match (documentOf (← Session.readPath path)).bind Snapshot.ofJson? with
  | some snapshot => return .ok snapshot
  | none => return .error (.snapshot path)

/-- The file that was asked for, or all files of a snapshot. -/
def select (snapshot : Snapshot) : Option UInt64 → Except Failure (List MediaFile)
  | some id =>
    match snapshot.file? id with
    | some file => .ok [file]
    | none => .error (.unknownFile id)
  | none => .ok snapshot.files

/-- What a run works with. -/
structure Workplace where
  library : Library
  /-- The snapshot of the catalog. -/
  snapshot : Snapshot
  files : List MediaFile

namespace Workplace

/-- The verdicts on the new names of the files. -/
def renameVerdicts (work : Workplace) : List Verdict :=
  work.files.map fun file =>
    .ofResult id file (work.library.renameFile work.snapshot file)

/-- The verdicts on the destinations of the files. -/
def placeVerdicts (work : Workplace) (filesystem : Filesystem) : Option (List Verdict) :=
  work.files.mapM fun file =>
    (work.library.placeFile work.snapshot filesystem file).map
      (.ofResult (fun destination => destination.path.text) file)

/-- The verdicts on the plans of the files, in the order in which a schedule ends them. -/
def planVerdicts (work : Workplace) (filesystem : Filesystem) (schedule : Nat → Nat) :
    Option (List Verdict) :=
  (work.library.planStream work.snapshot filesystem schedule work.files).map fun events =>
    events.filterMap Verdict.ofEvent?

/-- The verdicts of a task. There are none if one of the files is never done. -/
def verdicts (work : Workplace) (filesystem : Filesystem) (schedule : Nat → Nat) :
    Task → Option (List Verdict)
  | .rename => some work.renameVerdicts
  | .place => work.placeVerdicts filesystem
  | .plan => work.planVerdicts filesystem schedule

/-- The paths that finding destinations may ask about. -/
def paths (work : Workplace) : List Path :=
  let { folders, files, .. } := work.snapshot
  folders.map (·.path) ++ files.flatMap fun file =>
    file.locations.filterMap fun location =>
      (work.snapshot.folder? location.folderId).map fun folder =>
        folder.path.join location.directory

end Workplace

namespace Invocation

/-- Prepares the work of a run whose settings are loaded. -/
def prepareWith (invocation : Invocation) (settings : Settings) :
    Session (Except Failure Workplace) := do
  match ← Library.load (withScript settings invocation.script) with
  | .error error => return .error (.library error)
  | .ok library =>
    match ← loadSnapshot invocation.snapshot with
    | .error failure => return .error failure
    | .ok snapshot =>
      return (select snapshot invocation.file).map fun files => ⟨library, snapshot, files⟩

/-- Prepares the work of a run. -/
def prepare (invocation : Invocation) (environment : Environment) :
    Session (Except Failure Workplace) := do
  match ← Settings.load invocation.settings environment with
  | .error error => return .error (.settings error)
  | .ok settings => invocation.prepareWith settings

/-- Runs a task. The run may have no end. -/
def run (invocation : Invocation) (environment : Environment) (schedule : Nat → Nat) :
    Session (Option Outcome) := do
  match ← invocation.prepare environment with
  | .error failure => return some (.ofFailure failure)
  | .ok work =>
    let filesystem ← Session.inspectPaths work.paths
    return (work.verdicts filesystem schedule invocation.task).map fun verdicts =>
      .ofReport ⟨verdicts⟩

end Invocation

end MediaShelf.CommandLine
