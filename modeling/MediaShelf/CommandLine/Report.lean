import MediaShelf.Library.PlanStream
import MediaShelf.Text.Numeral

/-!
# Reports

A task ends with a verdict on every file it worked on: a result, or the reason why there is none.
The report has a row for each verdict, with the id of the file, a tab and the result, where a reason
is marked as an error. Reasons are passed on word for word.
-/

namespace MediaShelf.CommandLine

/-- What came of a file. -/
structure Verdict where
  /-- The id of the file; none if it is not known which one it was. -/
  fileId : Option UInt64
  /-- The result, or the reason why there is none. -/
  result : Except String String

namespace Verdict

/-- The verdict on a file for which something was found out, or not. -/
def ofResult {α : Type} (text : α → String) (file : MediaFile) (result : Except LibraryError α) :
    Verdict :=
  ⟨some file.id, (result.map text).mapError LibraryError.message⟩

/-- The verdict on a file that could not be planned. -/
def ofError : LibraryError → Verdict
  | .notPlanned fileId reason => ⟨some fileId, .error reason⟩
  | error => ⟨none, .error error.message⟩

/-- The verdict that an event brings, if it is about a file. -/
def ofEvent? : PlanEvent → Option Verdict
  | .started => none
  | .discovered _ => none
  | .planned plan => some ⟨some plan.fileId, .ok plan.path.text⟩
  | .failed error => some (ofError error)
  | .complete => none

/-- Whether there is no result. -/
def isFailure (verdict : Verdict) : Bool :=
  match verdict.result with
  | .ok _ => false
  | .error _ => true

/-- The first column of the row. -/
def label (verdict : Verdict) : String :=
  match verdict.fileId with
  | some id => Text.ofNat id.toNat
  | none => "-"

/-- The second column of the row. -/
def text (verdict : Verdict) : String :=
  match verdict.result with
  | .ok result => result
  | .error reason => "error: " ++ reason

/-- The row of the report. -/
def row (verdict : Verdict) : String :=
  verdict.label ++ "\t" ++ verdict.text

end Verdict

/-- The report of a task. -/
structure Report where
  /-- The verdicts, in the order of the report. -/
  verdicts : List Verdict := []

namespace Report

/-- How many files have no result. -/
def failures (report : Report) : Nat :=
  report.verdicts.countP (·.isFailure)

/-- The rows of the report. -/
def rows (report : Report) : List String :=
  report.verdicts.map (·.row)

/-- The report as a text: every row ends with a line feed. -/
def text (report : Report) : String :=
  String.join (report.rows.map fun row => row ++ "\n")

end Report

end MediaShelf.CommandLine
