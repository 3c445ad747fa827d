import MediaShelf.Library.Plan
import MediaShelf.Library.Workload

/-!
# Planning many files

Many files are planned at the same time, and the stream of events tells how far that has come. It
starts with the number of files, then there is one event for each file, in the order in which the
files are done, and at last the stream is complete. A file that cannot be planned is an event like
the others and does not stop them.
-/

namespace MediaShelf

/-- An event of planning many files. -/
inductive PlanEvent where
  | started
  /-- The number of files is known. -/
  | discovered (count : Nat)
  | planned (plan : Plan)
  /-- A file could not be planned. -/
  | failed (error : LibraryError)
  | complete
deriving DecidableEq

namespace PlanEvent

/-- The event of a file that is done. -/
def ofResult (file : MediaFile) : Except LibraryError Plan → PlanEvent
  | .ok plan => planned plan
  | .error error => failed (.notPlanned file.id error.message)

end PlanEvent

namespace Library

/-- How many files are planned at the same time. -/
def planLimit : Nat := 100

/-- The events of planning some files. There is no end of them if one of the files is never done. -/
def planStream (library : Library) (snapshot : Snapshot) (filesystem : Filesystem)
    (schedule : Nat → Nat) (files : List MediaFile) : Option (List PlanEvent) := do
  let done ← (Workload.order schedule planLimit files).mapM fun file =>
    (library.planFile snapshot filesystem file).map (PlanEvent.ofResult file)
  return .started :: .discovered files.length :: (done ++ [.complete])

end Library

end MediaShelf
