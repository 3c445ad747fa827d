import MediaShelf.Proofs.Catalog.RoundTrip
import MediaShelf.Proofs.CommandLine.Preparation
import MediaShelf.Proofs.Library.Workload
import MediaShelf.Proofs.Placement.Volumes
import Mathlib.Data.List.Basic

/-!
# The tasks agree

Naming, placing and planning the files of a snapshot are three runs, and each of them hands its
results through layers of its own. Here every run is brought to one form (`outcome_eq`): it works on
the files one by one, in order or, for plans, in the order in which they are done, and what it says
about a file is `Materials.result`, where no layer is left. The agreement of the tasks is then a
statement about one file.

What is found out about a file is printed in a row of its own, word for word (`lineOf`). So the rows
of the three reports say the same things as the results do.

A run fails for want of results with their number, and for no other reason once it has got to the
files. The number does not depend on the order of the files, so neither does it for plans.
-/

namespace MediaShelf

open CommandLine

/-! ## Results of single files -/

namespace Materials

variable (materials : Materials) (filesystem : Filesystem)

/-- What a task finds out about a file: a text, or the reason why there is none. A task may have no
end. -/
def result (file : MediaFile) : Task → Option (Except String String)
  | .rename => some (materials.newName file)
  | .place => (materials.destination? filesystem file).map fun placed =>
      placed.map fun destination => destination.path.text
  | .plan =>
      (Library.planned (materials.newName file) (materials.destination? filesystem file)).map
        fun planned => planned.map fun path => path.text

/-- Whether a task fails for a file. -/
def fails (task : Task) (file : MediaFile) : Bool :=
  match materials.result filesystem file task with
  | some (.error _) => true
  | _ => false

/-- The verdict on a file. -/
def verdict? (task : Task) (file : MediaFile) : Option Verdict :=
  (materials.result filesystem file task).map fun found => ⟨some file.id, found⟩

variable {materials filesystem} in
theorem destination?_eq {file : MediaFile} {result : Except PlacementError Destination}
    (h : resolveDestination materials.snapshot filesystem materials.settings.placement.options
      file = some result) :
    materials.destination? filesystem file = some (result.mapError PlacementError.message) := by
  rw [destination?, h, Option.map_some]

theorem fails_eq (task : Task) :
    materials.fails filesystem task = fun file =>
      (materials.verdict? filesystem task file).any (·.isFailure) := by
  funext file
  rw [verdict?, fails]
  rcases materials.result filesystem file task with _ | ⟨_ | _⟩ <;> rfl

end Materials

/-- The line that a file should get, for a result or a reason. -/
def lineOf (file : MediaFile) : Except String String → String
  | .ok result => Text.ofNat file.id.toNat ++ "\t" ++ result
  | .error reason => Text.ofNat file.id.toNat ++ "\t" ++ ("error: " ++ reason)

namespace CommandLine

theorem Verdict.ofResult_eq {α : Type} (text : α → String) (file : MediaFile)
    (result : Except LibraryError α) :
    ofResult text file result = ⟨some file.id, (Library.told result).map text⟩ := by
  cases result <;> rfl

/-- The event of a file brings the verdict on its plan, with the reason as it was. -/
theorem Verdict.ofEvent?_ofResult {library : Library} {snapshot : Snapshot}
    {filesystem : Filesystem} {file : MediaFile} {result : Except LibraryError Plan}
    (h : library.planFile snapshot filesystem file = some result) :
    ofEvent? (PlanEvent.ofResult file result) =
      some (ofResult (fun plan => plan.path.text) file result) := by
  cases result with
  | ok plan =>
      rw [ofResult, ← Library.fileId_of_planFile h]
      rfl
  | error error => rfl

/-! ## Results of many files -/

theorem filterMap_mapM {α β γ : Type} {f : α → Option β} {g : β → Option γ} {h : α → Option γ}
    (hstep : ∀ a, (f a).map g = (h a).map some) (items : List α) :
    (items.mapM f).map (List.filterMap g) = items.mapM h := by
  induction items with
  | nil => rfl
  | cons a rest ih =>
      rw [List.mapM_cons, List.mapM_cons, ← ih]
      have ha := hstep a
      cases hf : f a with
      | none =>
          rw [hf] at ha
          rw [Option.map_eq_none_iff.1 ha.symm]
          rfl
      | some b =>
          rw [hf] at ha
          obtain ⟨c, hc, hb⟩ := Option.map_eq_some_iff.1 ha.symm
          rw [hc]
          cases rest.mapM f with
          | none => rfl
          | some bs => exact congrArg some (List.filterMap_cons_some hb.symm)

theorem map_some_of_mapM {α β : Type} {f : α → Option β} {items : List α} {found : List β}
    (h : items.mapM f = some found) : found.map some = items.map f := by
  induction items generalizing found with
  | nil =>
      cases h
      rfl
  | cons a rest ih =>
      rw [List.mapM_cons] at h
      obtain ⟨b, hb, h⟩ := Option.bind_eq_some_iff.1 h
      obtain ⟨bs, hbs, h⟩ := Option.bind_eq_some_iff.1 h
      cases h
      rw [List.map_cons, List.map_cons, ih hbs, hb]

theorem mapM_eq_none_iff {α β : Type} {f : α → Option β} {items : List α} :
    items.mapM f = none ↔ ∃ a ∈ items, f a = none := by
  induction items with
  | nil => simp
  | cons a rest ih =>
      rw [List.mapM_cons, List.exists_mem_cons_iff, ← ih]
      cases f a with
      | none => exact iff_of_true rfl (Or.inl rfl)
      | some b => cases rest.mapM f <;> simp

theorem countP_of_mapM {α β : Type} {f : α → Option β} {p : β → Bool} {items : List α}
    {found : List β} (h : items.mapM f = some found) :
    found.countP p = items.countP fun a => (f a).any p := by
  calc found.countP p = (found.map some).countP (Option.any p) := by
        rw [List.countP_map]
        rfl
    _ = (items.map f).countP (Option.any p) := by rw [map_some_of_mapM h]
    _ = items.countP fun a => (f a).any p := by
        rw [List.countP_map]
        rfl

/-- The order in which a task works on files. -/
def Task.order (schedule : Nat → Nat) (files : List MediaFile) : Task → List MediaFile
  | .plan => Workload.order schedule Library.planLimit files
  | _ => files

theorem Task.order_perm (schedule : Nat → Nat) (files : List MediaFile) (task : Task) :
    (task.order schedule files).Perm files := by
  cases task with
  | plan => exact Workload.order_perm schedule (by decide) files
  | rename => exact .refl files
  | place => exact .refl files

/-- Only plans are worked on in another order than that of the files. -/
theorem Task.order_eq (schedule : Nat → Nat) (files : List MediaFile) {task : Task}
    (h : task ≠ .plan) : task.order schedule files = files := by
  cases task with
  | plan => exact absurd rfl h
  | rename => rfl
  | place => rfl

namespace Workplace

variable (materials : Materials) (files : List MediaFile) (filesystem : Filesystem)

theorem renameVerdicts_eq :
    some (renameVerdicts ⟨materials.library, materials.snapshot, files⟩) =
      files.mapM (materials.verdict? filesystem .rename) := by
  have hverdict : materials.verdict? filesystem .rename = fun file =>
      some (.ofResult id file (materials.library.renameFile materials.snapshot file)) := by
    funext file
    rw [Verdict.ofResult_eq, materials.renameFile_eq, Except.map_id]
    rfl
  rw [hverdict, renameVerdicts]
  exact (List.mapM_pure (m := Option)).symm

theorem placeVerdicts_eq :
    placeVerdicts ⟨materials.library, materials.snapshot, files⟩ filesystem =
      files.mapM (materials.verdict? filesystem .place) := by
  rw [placeVerdicts]
  congr 1
  funext file
  rw [Materials.verdict?, Materials.result, ← materials.placeFile_eq, Option.map_map, Option.map_map]
  congr 1
  funext result
  exact Verdict.ofResult_eq _ file result

theorem planVerdicts_eq (schedule : Nat → Nat) :
    planVerdicts ⟨materials.library, materials.snapshot, files⟩ filesystem schedule =
      (Workload.order schedule Library.planLimit files).mapM
        (materials.verdict? filesystem .plan) := by
  have hverdict : ∀ file,
      ((materials.library.planFile materials.snapshot filesystem file).map
        (PlanEvent.ofResult file)).map Verdict.ofEvent? =
      (materials.verdict? filesystem .plan file).map some := by
    intro file
    rw [Materials.verdict?, Materials.result, ← materials.renameFile_eq, ← materials.placeFile_eq,
      ← Library.planFile_eq]
    cases hplan : materials.library.planFile materials.snapshot filesystem file with
    | none => rfl
    | some result =>
        simp only [Option.map_some, Verdict.ofEvent?_ofResult hplan, Verdict.ofResult_eq]
        cases result <;> rfl
  rw [← filterMap_mapM hverdict, planVerdicts, Library.planStream]
  cases (Workload.order schedule Library.planLimit files).mapM fun file =>
      (materials.library.planFile materials.snapshot filesystem file).map
        (PlanEvent.ofResult file) with
  | none => rfl
  | some events =>
      have hends : (PlanEvent.started :: .discovered files.length ::
          (events ++ [.complete])).filterMap Verdict.ofEvent? =
          events.filterMap Verdict.ofEvent? := by
        rw [List.filterMap_cons_none rfl, List.filterMap_cons_none rfl, List.filterMap_append,
          List.filterMap_cons_none rfl, List.filterMap_nil, List.append_nil]
      exact congrArg some hends

theorem verdicts_eq (schedule : Nat → Nat) (task : Task) :
    verdicts ⟨materials.library, materials.snapshot, files⟩ filesystem schedule task =
      (task.order schedule files).mapM (materials.verdict? filesystem task) := by
  cases task with
  | rename => exact renameVerdicts_eq materials files filesystem
  | place => exact placeVerdicts_eq materials files filesystem
  | plan => exact planVerdicts_eq materials files filesystem schedule

end Workplace

/-! ## Rows -/

theorem row_eq_lineOf {file : MediaFile} {result : Except String String} :
    Verdict.row ⟨some file.id, result⟩ = lineOf file result := by
  cases result <;> rfl

/-- The report has a row for each file, with the words that were found out. -/
theorem rows_of_mapM {materials : Materials} {filesystem : Filesystem} {task : Task}
    {files : List MediaFile} {verdicts : List Verdict}
    (h : files.mapM (materials.verdict? filesystem task) = some verdicts) :
    (Report.mk verdicts).rows.map some = files.map fun file =>
      (materials.result filesystem file task).map (lineOf file) := by
  calc (Report.mk verdicts).rows.map some = (verdicts.map some).map (Option.map Verdict.row) := by
        rw [Report.rows, List.map_map, List.map_map]
        rfl
    _ = files.map fun file => (materials.result filesystem file task).map (lineOf file) := by
        rw [map_some_of_mapM h, List.map_map]
        refine List.map_congr_left fun file _ => ?_
        rw [Function.comp_apply, Materials.verdict?, Option.map_map]
        exact congrArg (Option.map · _) (funext fun _ => row_eq_lineOf)

/-! ## Runs -/

variable {machine : Machine} {invocation : Invocation} {materials : Materials}
  {files : List MediaFile}

theorem outcome_eq (h : machine.Loads invocation materials files) (schedule : Nat → Nat) :
    machine.outcome schedule invocation =
      ((invocation.task.order schedule files).mapM
        (materials.verdict? machine.filesystem invocation.task)).map
        fun verdicts => .ofReport ⟨verdicts⟩ := by
  rw [Machine.outcome, Invocation.run, Machine.ask_bind, h.ask_prepare]
  simp only [Machine.ask_bind, Machine.ask_inspectPaths, Machine.ask_pure, Workplace.verdicts_eq]

theorem failures_eq {schedule : Nat → Nat} {outcome : Outcome}
    (h : machine.Loads invocation materials files)
    (hended : machine.outcome schedule invocation = some outcome) :
    outcome = .ofReport outcome.report ∧ outcome.report.failures =
      files.countP (materials.fails machine.filesystem invocation.task) := by
  rw [outcome_eq h] at hended
  obtain ⟨verdicts, hverdicts, rfl⟩ := Option.map_eq_some_iff.1 hended
  refine ⟨rfl, ?_⟩
  rw [← (invocation.task.order_perm schedule files).countP_eq, Materials.fails_eq]
  exact countP_of_mapM hverdicts

/-- What the tasks find out about one file: a plan fails exactly if the name or the destination
fails, for the reason of the name if there is one, and otherwise it joins the two. -/
structure Agrees (named placed planned : Option (Except String String)) : Prop where
  fails : (∃ reason, planned = some (.error reason)) ↔
    (∃ reason, named = some (.error reason)) ∨ ∃ reason, placed = some (.error reason)
  reason : ∀ reason, planned = some (.error reason) →
    named = some (.error reason) ∨
      (∃ name, named = some (.ok name)) ∧ placed = some (.error reason)
  path : ∀ path, planned = some (.ok path) → ∃ name directory, named = some (.ok name) ∧
    placed = some (.ok directory) ∧ path = (Path.join ⟨directory⟩ ⟨name⟩).text

theorem agrees (materials : Materials) (filesystem : Filesystem) (other : Option Script)
    (file : MediaFile) :
    Agrees (materials.result filesystem file .rename)
      ({ materials with script := other }.result filesystem file .place)
      (materials.result filesystem file .plan) := by
  have hplace : { materials with script := other }.destination? filesystem file =
      materials.destination? filesystem file := rfl
  simp only [Materials.result, hplace]
  cases materials.newName file with
  | error reason => constructor <;> simp [Library.planned, Except.map]
  | ok name =>
      rcases materials.destination? filesystem file with _ | ⟨reason | destination⟩ <;>
        constructor <;> simp [Library.planned, Except.map]

/-- A run that gets to its files ends if something is found out about each of them. It prints a row
for each, in the order of the files or, for plans, in some order, and fails with the number of those
without a result if there are any. A run that does not get there fails for another reason. About one
file the tasks agree, whatever script the one that places it may have. -/
theorem tasks_agree (machine : Machine) (schedule : Nat → Nat) :
    (∀ invocation materials files, machine.Loads invocation materials files →
      (machine.outcome schedule invocation = none ↔
        ∃ file ∈ files, materials.result machine.filesystem file invocation.task = none) ∧
      ∀ outcome, machine.outcome schedule invocation = some outcome →
        (∃ order : List MediaFile, order.Perm files ∧ (invocation.task ≠ .plan → order = files) ∧
          outcome.report.rows.map some = order.map fun file =>
            (materials.result machine.filesystem file invocation.task).map (lineOf file)) ∧
        outcome.report.text = String.join (outcome.report.rows.map (· ++ "\n")) ∧
        ∀ count, count = files.countP (materials.fails machine.filesystem invocation.task) →
          outcome.failure.map Failure.message =
            if count = 0 then none else some (Text.ofNat count ++ " file(s) failed")) ∧
    (∀ invocation, (∀ materials files, ¬ machine.Loads invocation materials files) →
      ∃ failure, machine.outcome schedule invocation = some (.ofFailure failure) ∧
        ∀ count, failure ≠ .files count) ∧
    ∀ (materials : Materials) (other : Option Script) (file : MediaFile),
      Agrees (materials.result machine.filesystem file .rename)
        ({ materials with script := other }.result machine.filesystem file .place)
        (materials.result machine.filesystem file .plan) := by
  refine ⟨fun invocation materials files h => ⟨?_, fun outcome hended => ⟨?_, rfl, ?_⟩⟩, ?_,
    fun materials => agrees materials _⟩
  · rw [outcome_eq h, Option.map_eq_none_iff, mapM_eq_none_iff]
    simp only [(invocation.task.order_perm schedule files).mem_iff, Materials.verdict?,
      Option.map_eq_none_iff]
  · refine ⟨invocation.task.order schedule files, invocation.task.order_perm schedule files,
      fun htask => invocation.task.order_eq schedule files htask, ?_⟩
    rw [outcome_eq h] at hended
    obtain ⟨verdicts, hverdicts, rfl⟩ := Option.map_eq_some_iff.1 hended
    exact rows_of_mapM hverdicts
  · rintro _ rfl
    obtain ⟨hreport, hfailures⟩ := failures_eq h hended
    rw [hreport, Outcome.ofReport, hfailures]
    split <;> rfl
  · intro invocation h
    obtain ⟨failure, hfailure, hne⟩ := Machine.ask_prepare_of_not_loads h
    refine ⟨failure, ?_, hne⟩
    rw [Machine.outcome, Invocation.run, Machine.ask_bind, hfailure]
    rfl

/-- A file with a name and a destination, one with a name only, and one with neither. -/
def threeFiles : Snapshot where
  shows := [{ id := 1 }]
  series := [⟨1, 1, "Mushishi"⟩]
  episodes := [{ id := 10, showId := 1, number := 3 }, { id := 20, showId := 1, number := 4 }]
  files := [
    { id := 1, fileName := "a.mkv", hash := "aa", size := 10, locations := [⟨1, ⟨"a.mkv"⟩⟩] },
    { id := 2, fileName := "b.mkv", hash := "bb", size := 10 },
    { id := 3, fileName := "c.mkv", hash := "cc", size := 10 }]
  crossReferences := [⟨"aa", 10, 1⟩, ⟨"bb", 20, 1⟩]
  folders := [
    { id := 1, path := ⟨"/in"⟩, isDropSource := true },
    { id := 2, path := ⟨"/tv"⟩, isDropDestination := true }]

/-- A machine with the snapshot, a script, and no settings. -/
def threeFilesMachine : Machine where
  environment := {}
  content path :=
    if path = ⟨"/catalog"⟩ then .text threeFiles.render
    else if path = ⟨"/script"⟩ then .text "DO ADD '%enr'"
    else .absent
  filesystem := VolumeTable.filesystem { directories := [(⟨"/in"⟩, 1), (⟨"/tv"⟩, 1)] }

/-- What runs with the script work from. -/
def threeFilesMaterials : Materials :=
  ⟨{}, some (Scripted.compile "default" "DO ADD '%enr'"), threeFiles⟩

/-- A task on all of the files. -/
def threeFilesRun (task : Task) : Invocation :=
  ⟨task, none, ⟨"/catalog"⟩, some ⟨"/script"⟩, none⟩

theorem loads_threeFiles (task : Task) :
    threeFilesMachine.Loads (threeFilesRun task) threeFilesMaterials threeFiles.files where
  settings := rfl
  script := .some rfl rfl
  snapshot := Snapshot.restores.read_render (.whole Snapshot.shape threeFiles.toJson)
  files := rfl

theorem newName_threeFiles :
    threeFilesMaterials.newName threeFiles.files[0] = .ok "3.mkv" ∧
      threeFilesMaterials.newName threeFiles.files[1] = .ok "4.mkv" ∧
      threeFilesMaterials.newName threeFiles.files[2] = .error "file has no linked episodes" := by
  decide +kernel

theorem resolveDestination_threeFiles :
    resolveDestination threeFiles threeFilesMachine.filesystem
        threeFilesMaterials.settings.placement.options threeFiles.files[0] =
      some (.ok ⟨threeFiles.folders[1], ⟨"Mushishi"⟩⟩) := by
  have hsettles : threeFilesMachine.filesystem.Settles
      threeFilesMaterials.settings.placement.options := VolumeTable.settles (Or.inr rfl)
  have hat : Placement.IsAt threeFiles threeFiles.files[0] threeFiles.folders[0]
      ⟨1, ⟨"a.mkv"⟩⟩ := Placement.isAt_iff.2 (by decide +kernel)
  have hlinked : (threeFiles.episodesOfFile threeFiles.files[0].hash).head? =
      some threeFiles.episodes[0] := by decide +kernel
  have hseries : threeFiles.seriesOfShow? threeFiles.episodes[0].showId =
      some threeFiles.series[0] := by decide +kernel
  have hvisited : newestFirst (threeFiles.episodesOfSeries threeFiles.series[0].id) =
      threeFiles.episodes := by
    rw [newestFirst_eq_insertionSort]
    decide +kernel
  rw [Placement.resolveDestination_eq_outcome hsettles hat hlinked hseries, hvisited]
  decide +kernel

theorem destination_threeFiles :
    threeFilesMaterials.destination? threeFilesMachine.filesystem threeFiles.files[0] =
        some (.ok ⟨threeFiles.folders[1], ⟨"Mushishi"⟩⟩) ∧
      threeFilesMaterials.destination? threeFilesMachine.filesystem threeFiles.files[1] =
        some (.error "file 2 has no location in a known folder") ∧
      threeFilesMaterials.destination? threeFilesMachine.filesystem threeFiles.files[2] =
        some (.error "file 3 has no location in a known folder") := by
  have hsecond : resolveDestination threeFiles threeFilesMachine.filesystem
      threeFilesMaterials.settings.placement.options threeFiles.files[1] =
        some (.error (.noLocation 2)) := rfl
  have hthird : resolveDestination threeFiles threeFilesMachine.filesystem
      threeFilesMaterials.settings.placement.options threeFiles.files[2] =
        some (.error (.noLocation 3)) := rfl
  refine ⟨(Materials.destination?_eq resolveDestination_threeFiles).trans rfl,
    (Materials.destination?_eq hsecond).trans ?_,
    (Materials.destination?_eq hthird).trans ?_⟩ <;>
    decide +kernel

/-- What the tasks find out about the three files. -/
def threeFilesVerdicts : Task → List Verdict
  | .rename => [⟨some 1, .ok "3.mkv"⟩, ⟨some 2, .ok "4.mkv"⟩,
      ⟨some 3, .error "file has no linked episodes"⟩]
  | .place => [⟨some 1, .ok "/tv/Mushishi"⟩,
      ⟨some 2, .error "file 2 has no location in a known folder"⟩,
      ⟨some 3, .error "file 3 has no location in a known folder"⟩]
  | .plan => [⟨some 1, .ok "/tv/Mushishi/3.mkv"⟩,
      ⟨some 2, .error "file 2 has no location in a known folder"⟩,
      ⟨some 3, .error "file has no linked episodes"⟩]

theorem verdicts_threeFiles (task : Task) :
    threeFiles.files.mapM (threeFilesMaterials.verdict? threeFilesMachine.filesystem task) =
      some (threeFilesVerdicts task) := by
  have hfiles : threeFiles.files =
      [threeFiles.files[0], threeFiles.files[1], threeFiles.files[2]] := rfl
  have hdirectory : (Destination.path ⟨threeFiles.folders[1], ⟨"Mushishi"⟩⟩).text =
      "/tv/Mushishi" := by decide +kernel
  have hpath : (Destination.path ⟨threeFiles.folders[1], ⟨"Mushishi"⟩⟩).join ⟨"3.mkv"⟩ =
      ⟨"/tv/Mushishi/3.mkv"⟩ := by decide +kernel
  obtain ⟨hname, hname', hname''⟩ := newName_threeFiles
  obtain ⟨hplace, hplace', hplace''⟩ := destination_threeFiles
  rw [hfiles]
  cases task <;>
    simp only [List.mapM_cons, List.mapM_nil, Materials.verdict?, Materials.result, hname, hname',
      hname'', hplace, hplace', hplace'', Library.planned, Option.map_some, Except.map, hpath,
      hdirectory] <;>
    rfl

theorem outcome_threeFiles (task : Task) :
    threeFilesMachine.outcome (fun _ => 0) (threeFilesRun task) =
      some (.ofReport ⟨threeFilesVerdicts task⟩) := by
  have horder : (threeFilesRun task).task.order (fun _ => 0) threeFiles.files =
      threeFiles.files := by
    cases task <;> decide +kernel
  rw [outcome_eq (loads_threeFiles task), horder]
  exact congrArg (Option.map _) (verdicts_threeFiles task)

theorem countP_threeFiles (task : Task) :
    threeFiles.files.countP (threeFilesMaterials.fails threeFilesMachine.filesystem task) =
      (threeFilesVerdicts task).countP (·.isFailure) := by
  rw [Materials.fails_eq, ← countP_of_mapM (verdicts_threeFiles task)]

/-- The third file has no name, the second and the third one no destination, and so neither of them
has a plan: the reports of the three runs say so in the same words. -/
theorem tasks_agree_threeFiles :
    (∃ named, threeFilesMachine.outcome (fun _ => 0) (threeFilesRun .rename) = some named ∧
      named.report.rows = ["1\t3.mkv", "2\t4.mkv", "3\terror: file has no linked episodes"] ∧
      named.failure.map Failure.message = some "1 file(s) failed") ∧
    (∃ placed, threeFilesMachine.outcome (fun _ => 0) (threeFilesRun .place) = some placed ∧
      placed.report.rows = ["1\t/tv/Mushishi",
        "2\terror: file 2 has no location in a known folder",
        "3\terror: file 3 has no location in a known folder"] ∧
      placed.failure.map Failure.message = some "2 file(s) failed") ∧
    (∃ planned, threeFilesMachine.outcome (fun _ => 0) (threeFilesRun .plan) = some planned ∧
      planned.report.rows = ["1\t/tv/Mushishi/3.mkv",
        "2\terror: file 2 has no location in a known folder",
        "3\terror: file has no linked episodes"] ∧
      planned.failure.map Failure.message = some "2 file(s) failed") ∧
    ∀ file, Agrees (threeFilesMaterials.result threeFilesMachine.filesystem file .rename)
      (threeFilesMaterials.result threeFilesMachine.filesystem file .place)
      (threeFilesMaterials.result threeFilesMachine.filesystem file .plan) := by
  obtain ⟨hruns, -, hagrees⟩ := tasks_agree threeFilesMachine (fun _ => 0)
  have hfailure : ∀ task, (Outcome.ofReport ⟨threeFilesVerdicts task⟩).failure.map
      Failure.message = if (threeFilesVerdicts task).countP (·.isFailure) = 0 then none else
        some (Text.ofNat ((threeFilesVerdicts task).countP (·.isFailure)) ++ " file(s) failed") :=
    fun task => ((hruns _ _ _ (loads_threeFiles task)).2 _ (outcome_threeFiles task)).2.2 _
      (countP_threeFiles task).symm
  refine ⟨⟨_, outcome_threeFiles .rename, ?_, (hfailure .rename).trans ?_⟩,
    ⟨_, outcome_threeFiles .place, ?_, (hfailure .place).trans ?_⟩,
    ⟨_, outcome_threeFiles .plan, ?_, (hfailure .plan).trans ?_⟩,
    hagrees threeFilesMaterials threeFilesMaterials.script⟩
  all_goals decide +kernel

end CommandLine

end MediaShelf
