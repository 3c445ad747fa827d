import MediaShelf.Proofs.CommandLine.Agreement
import MediaShelf.Proofs.Placement.Answer
import MediaShelf.Proofs.Script.Outcome
import MediaShelf.Proofs.Script.SafeName
import MediaShelf.Proofs.Text.Rows

/-!
# One line for each file

The report of a run has a line for each file. Whether it also reads like that depends on what stands
in the lines, since a line feed in the middle of one makes two of it. Most of what a line may say
cannot have any: numbers, names that were made safe, and the words of the messages. Two things can,
and they come from the catalog as they are. One is the present name of a file, which the message
about a missing extension repeats; the other is the path of a destination. `BreaksLine` is when one of
them gets into a line with a line feed in it, and the main theorem says that nothing else disturbs the
report.
-/

namespace MediaShelf

open CommandLine

theorem NamingContext.file_of_ofFile {snapshot : Snapshot} {file : MediaFile} {ctx : NamingContext}
    (h : ofFile snapshot file = .ok ctx) : ctx.file = file := by
  unfold ofFile at h
  split at h
  · cases h
  · split at h
    · cases h
      rfl
    · cases h

/-! ## Where line feeds come from -/

theorem Text.newline_not_mem_ofNat (n : Nat) : '\n' ∉ (Text.ofNat n).toList := by
  rw [Text.ofNat, String.toList_ofList]
  intro h
  have hdigit := Text.isAsciiDigit_of_mem_natDigits h
  exact absurd hdigit (by decide)

theorem newline_not_mem_safeName (name : String) : '\n' ∉ (safeName name).toList := by
  rw [safeName, String.toList_ofList]
  exact not_mem_safeChars_of_isControlChar (by decide) _

theorem newline_not_mem_append {a b : String} :
    '\n' ∉ (a ++ b).toList ↔ '\n' ∉ a.toList ∧ '\n' ∉ b.toList := by
  rw [String.toList_append, List.mem_append, not_or]

theorem newline_not_mem_of_ofFile {snapshot : Snapshot} {file : MediaFile} {error : LibraryError}
    (h : NamingContext.ofFile snapshot file = .error error) : '\n' ∉ error.message.toList := by
  unfold NamingContext.ofFile at h
  split at h
  · obtain rfl := Except.error.inj h
    show '\n' ∉ "file has no linked episodes".toList
    decide
  · next episode _ _ =>
      split at h
      · cases h
      · obtain rfl := Except.error.inj h
        show '\n' ∉ ("show " ++ Text.ofNat episode.showId.toNat ++ " not found").toList
        rw [newline_not_mem_append, newline_not_mem_append]
        exact ⟨⟨by decide, Text.newline_not_mem_ofNat _⟩, by decide⟩

theorem newline_not_mem_of_resolveDestination {snapshot : Snapshot} {filesystem : Filesystem}
    {options : PlacementOptions} {file : MediaFile} {error : PlacementError}
    (h : resolveDestination snapshot filesystem options file = some (.error error)) :
    '\n' ∉ error.message.toList := by
  cases Placement.decision_of_resolveDestination h with
  | noLocation =>
      show '\n' ∉ ("file " ++ Text.ofNat file.id.toNat ++ " has no location in a known folder").toList
      rw [newline_not_mem_append, newline_not_mem_append]
      exact ⟨⟨by decide, Text.newline_not_mem_ofNat _⟩, by decide⟩
  | noCrossReferences =>
      show '\n' ∉ "No xrefs".toList
      decide
  | seriesNotFound =>
      show '\n' ∉ "Series not Found".toList
      decide
  | searched _ _ _ _ search =>
      cases search with
      | noDestination =>
          show '\n' ∉ "Unable to resolve a destination".toList
          decide

/-- The text of a result, which is that of the reason if there is none. -/
def textOf : Except String String → String
  | .ok result => result
  | .error reason => reason

/-- Of what a script comes to, only the name of the file can have a line feed. -/
theorem newline_mem_run_iff (script : Script) (ctx : NamingContext) (options : NamingOptions) :
    '\n' ∈ (textOf ((script.run ctx options).mapError ScriptError.message)).toList ↔
      script.run ctx options = .error (.missingExtension ctx.file.fileName) ∧
        '\n' ∈ ctx.file.fileName.toList := by
  have houtcome := script.outcome_run ctx options
  generalize script.run ctx options = result at houtcome
  cases houtcome with
  | noEpisodes =>
      have hwords : '\n' ∉ "file has no linked episodes".toList := by decide
      exact iff_of_false hwords (by simp)
  | aborted =>
      have hwords : '\n' ∉ "script aborted by a FAIL action".toList := by decide
      exact iff_of_false hwords (by simp)
  | emptyName =>
      have hwords : '\n' ∉ "script produced an empty name".toList := by decide
      exact iff_of_false hwords (by simp)
  | missingExtension =>
      have hwords : '\n' ∉ "unable to determine the file extension of ".toList := by decide
      show '\n' ∈ ("unable to determine the file extension of " ++ ctx.file.fileName).toList ↔ _
      rw [String.toList_append, List.mem_append, or_iff_right hwords]
      exact (and_iff_right rfl).symm
  | finished => exact iff_of_false (newline_not_mem_safeName _) (by simp)

/-! ## Lines of files -/

theorem newline_mem_lineOf_iff {file : MediaFile} {result : Except String String} :
    '\n' ∈ (lineOf file result).toList ↔ '\n' ∈ (textOf result).toList := by
  have hfront : '\n' ∉ (Text.ofNat file.id.toNat ++ "\t").toList :=
    newline_not_mem_append.2 ⟨Text.newline_not_mem_ofNat _, by decide⟩
  have hmark : '\n' ∉ "error: ".toList := by decide
  cases result with
  | ok result => rw [lineOf, textOf, String.toList_append, List.mem_append, or_iff_right hfront]
  | error reason =>
      rw [lineOf, textOf, String.toList_append, List.mem_append, or_iff_right hfront,
        String.toList_append, List.mem_append, or_iff_right hmark]

namespace Materials

variable {materials : Materials} {filesystem : Filesystem} {file : MediaFile}

/-- A task puts something with a line feed into the line of a file. -/
inductive BreaksLine (materials : Materials) (filesystem : Filesystem) (file : MediaFile) :
    Task → Prop where
  | name {ctx : NamingContext} {script : Script}
      (context : NamingContext.ofFile materials.snapshot file = .ok ctx)
      (scripted : materials.script = some script)
      (missing : script.run ctx materials.settings.rename.options =
        .error (.missingExtension file.fileName))
      (feed : '\n' ∈ file.fileName.toList) : BreaksLine materials filesystem file .rename
  | path {destination : Destination}
      (found : resolveDestination materials.snapshot filesystem
        materials.settings.placement.options file = some (.ok destination))
      (feed : '\n' ∈ destination.path.text.toList) : BreaksLine materials filesystem file .place

theorem newline_mem_newName_iff :
    '\n' ∈ (textOf (materials.newName file)).toList ↔
      materials.BreaksLine filesystem file .rename := by
  constructor
  · intro h
    unfold newName at h
    split at h
    · next error hcontext => exact absurd h (newline_not_mem_of_ofFile hcontext)
    · next ctx hcontext =>
        split at h
        · next script hscript =>
            obtain ⟨hrun, hname⟩ := (newline_mem_run_iff script ctx _).1 h
            rw [NamingContext.file_of_ofFile hcontext] at hrun hname
            exact .name hcontext hscript hrun hname
        · have hwords : '\n' ∉ "no renaming script is available".toList := by decide
          exact absurd h hwords
  · rintro ⟨hcontext, hscript, hrun, hname⟩
    obtain rfl := NamingContext.file_of_ofFile hcontext
    rw [newName, hcontext, hscript]
    exact (newline_mem_run_iff _ _ _).2 ⟨hrun, hname⟩

theorem newline_mem_destination_iff {result : Except String String}
    (h : materials.result filesystem file .place = some result) :
    '\n' ∈ (textOf result).toList ↔ materials.BreaksLine filesystem file .place := by
  rw [Materials.result, destination?] at h
  cases hplaced : resolveDestination materials.snapshot filesystem
      materials.settings.placement.options file with
  | none =>
      rw [hplaced] at h
      cases h
  | some placed =>
      rw [hplaced] at h
      obtain rfl := Option.some.inj h
      cases placed with
      | error error =>
          refine iff_of_false (newline_not_mem_of_resolveDestination hplaced) ?_
          intro hbreaks
          cases hbreaks with
          | path hfound =>
              rw [hplaced] at hfound
              cases hfound
      | ok destination =>
          constructor
          · exact fun hfeed => .path hplaced hfeed
          · intro hbreaks
            cases hbreaks with
            | path hfound hfeed =>
                rw [hplaced] at hfound
                obtain rfl := Except.ok.inj (Option.some.inj hfound)
                exact hfeed

theorem newline_mem_result_iff {task : Task} (htask : task ≠ .plan) {result : Except String String}
    (h : materials.result filesystem file task = some result) :
    '\n' ∈ (textOf result).toList ↔ materials.BreaksLine filesystem file task := by
  cases task with
  | rename =>
      obtain rfl := Option.some.inj h
      exact newline_mem_newName_iff
  | place => exact newline_mem_destination_iff h
  | plan => exact absurd rfl htask

end Materials

/-! ## Reports -/

namespace CommandLine

/-- An output that has exactly one line for each file, in order: its id, a tab, and its result or
`error: ` and the reason. -/
def OneLineEach (materials : Materials) (filesystem : Filesystem) (task : Task)
    (files : List MediaFile) (output : String) : Prop :=
  List.Forall₂ (fun file line => ∃ result, materials.result filesystem file task = some result ∧
    line = (lineOf file result).toList ++ ['\n']) files (Text.rowsWithEnds output.toList)

variable {materials : Materials} {filesystem : Filesystem} {task : Task} {files : List MediaFile}

theorem forall₂_of_mapM {α β : Type} {f : α → Option β} {items : List α} {found : List β}
    (h : items.mapM f = some found) : List.Forall₂ (fun a b => f a = some b) items found := by
  induction items generalizing found with
  | nil =>
      cases h
      exact .nil
  | cons a rest ih =>
      rw [List.mapM_cons] at h
      obtain ⟨b, hb, h⟩ := Option.bind_eq_some_iff.1 h
      obtain ⟨bs, hbs, h⟩ := Option.bind_eq_some_iff.1 h
      cases h
      exact .cons hb (ih hbs)

theorem toList_text (report : Report) :
    report.text.toList = Text.ofRows (report.rows.map String.toList) := by
  rw [Report.text, String.toList_join, List.flatMap_map, Text.ofRows, List.flatMap_map]
  simp only [String.toList_append]
  rfl

theorem forall_mem_iff {α β : Type} {r : α → β → Prop} {p : α → Prop} {q : β → Prop}
    (hpq : ∀ a b, r a b → (p a ↔ q b)) {as : List α} {bs : List β} (h : List.Forall₂ r as bs) :
    (∀ a ∈ as, p a) ↔ ∀ b ∈ bs, q b := by
  induction h with
  | nil => simp
  | cons hab _ ih => rw [List.forall_mem_cons, List.forall_mem_cons, hpq _ _ hab, ih]

theorem exists_result_of_verdict? {file : MediaFile} {verdict : Verdict}
    (h : materials.verdict? filesystem task file = some verdict) :
    ∃ result, materials.result filesystem file task = some result ∧
      verdict.row = lineOf file result := by
  obtain ⟨result, hresult, rfl⟩ := Option.map_eq_some_iff.1 h
  exact ⟨result, hresult, row_eq_lineOf⟩

/-- What each file should get is what the row of its verdict says. -/
theorem forall₂_lineOf_iff {verdicts : List Verdict}
    (h : List.Forall₂ (fun file verdict => materials.verdict? filesystem task file = some verdict)
      files verdicts) (lines : List (List Char)) :
    List.Forall₂ (fun file line => ∃ result, materials.result filesystem file task = some result ∧
        line = (lineOf file result).toList ++ ['\n']) files lines ↔
      lines = (verdicts.map fun verdict => verdict.row.toList).map fun row => row ++ ['\n'] := by
  induction h generalizing lines with
  | nil => exact List.forall₂_nil_left_iff
  | @cons file verdict files verdicts hfile _ ih =>
      obtain ⟨result, hresult, hrow⟩ := exists_result_of_verdict? hfile
      rw [List.forall₂_cons_left_iff, List.map_cons, List.map_cons, hrow]
      constructor
      · rintro ⟨line, rest, ⟨other, hother, rfl⟩, hrest, rfl⟩
        -- A file has one result, so the line can be for no other.
        rw [hresult] at hother
        rw [Option.some.inj hother, (ih rest).1 hrest]
      · rintro rfl
        exact ⟨_, _, ⟨result, hresult, rfl⟩, (ih _).2 rfl, rfl⟩

theorem oneLineEach_iff (htask : task ≠ .plan) {verdicts : List Verdict}
    (h : files.mapM (materials.verdict? filesystem task) = some verdicts) :
    OneLineEach materials filesystem task files (Report.mk verdicts).text ↔
      ∀ file ∈ files, ¬ materials.BreaksLine filesystem file task := by
  have hverdicts := forall₂_of_mapM h
  have hfile : ∀ file verdict, materials.verdict? filesystem task file = some verdict →
      (¬ materials.BreaksLine filesystem file task ↔ '\n' ∉ verdict.row.toList) := by
    intro file verdict hverdict
    obtain ⟨result, hresult, hrow⟩ := exists_result_of_verdict? hverdict
    rw [hrow, newline_mem_lineOf_iff, Materials.newline_mem_result_iff htask hresult]
  have hrows : (Report.mk verdicts).rows.map String.toList =
      verdicts.map fun verdict => verdict.row.toList := List.map_map
  rw [OneLineEach, forall₂_lineOf_iff hverdicts, toList_text, hrows, Text.rowsWithEnds_ofRows_iff,
    List.forall_mem_map, forall_mem_iff hfile hverdicts]

/-- A run that gets to its files, and is not about plans, comes to its end exactly if there is
a result or a reason for each of them. Its report then has one line for each file, in order, exactly
if no file puts a line feed into its line. -/
theorem report_lines (machine : Machine) (schedule : Nat → Nat) {invocation : Invocation}
    {materials : Materials} {files : List MediaFile}
    (hloads : machine.Loads invocation materials files) (htask : invocation.task ≠ .plan) :
    (machine.outcome schedule invocation = none ↔
      ∃ file ∈ files, materials.result machine.filesystem file invocation.task = none) ∧
    ∀ outcome, machine.outcome schedule invocation = some outcome →
      (OneLineEach materials machine.filesystem invocation.task files outcome.report.text ↔
        ∀ file ∈ files, ¬ materials.BreaksLine machine.filesystem file invocation.task) := by
  rw [outcome_eq hloads, invocation.task.order_eq schedule files htask]
  constructor
  · rw [Option.map_eq_none_iff, mapM_eq_none_iff]
    simp only [Materials.verdict?, Option.map_eq_none_iff]
  · intro outcome hended
    obtain ⟨verdicts, hverdicts, rfl⟩ := Option.map_eq_some_iff.1 hended
    exact oneLineEach_iff htask hverdicts

theorem report_lines_threeFiles :
    threeFilesMachine.Loads ⟨.rename, none, ⟨"/catalog"⟩, some ⟨"/script"⟩, none⟩
        threeFilesMaterials threeFiles.files ∧
      ∃ outcome, threeFilesMachine.outcome (fun _ => 0)
          ⟨.rename, none, ⟨"/catalog"⟩, some ⟨"/script"⟩, none⟩ = some outcome ∧
        OneLineEach threeFilesMaterials threeFilesMachine.filesystem .rename threeFiles.files
          outcome.report.text := by
  have hloads := loads_threeFiles .rename
  have hplain : ∀ file ∈ threeFiles.files, '\n' ∉ file.fileName.toList := by decide
  obtain ⟨hends, hlines⟩ := report_lines threeFilesMachine (fun _ => 0) hloads (by decide)
  refine ⟨hloads, ?_⟩
  cases hended : threeFilesMachine.outcome (fun _ => 0)
      ⟨.rename, none, ⟨"/catalog"⟩, some ⟨"/script"⟩, none⟩ with
  | none =>
      obtain ⟨file, -, hfile⟩ := hends.1 hended
      cases hfile
  | some outcome =>
      refine ⟨outcome, rfl, (hlines outcome hended).2 fun file hmem hbreaks => ?_⟩
      cases hbreaks with
      | name _ _ _ hfeed => exact hplain file hmem hfeed

/-- A file without an extension whose name has the line of another file in it. -/
def forgedCatalog : Snapshot where
  shows := [{ id := 1 }]
  episodes := [{ id := 10, showId := 1, number := 1 }]
  files := [{ id := 1, fileName := "clip\n2\tforged", hash := "aa", size := 10 }]
  crossReferences := [⟨"aa", 10, 1⟩]

/-- A machine with that catalog, a script, and no settings. -/
def forgedMachine : Machine where
  environment := {}
  content path :=
    if path = ⟨"/catalog"⟩ then .text forgedCatalog.render
    else if path = ⟨"/script"⟩ then .text "DO ADD '%enr'"
    else .absent
  filesystem := VolumeTable.filesystem {}

/-- What runs on it work from. -/
def forgedMaterials : Materials :=
  ⟨{}, some (Scripted.compile "default" "DO ADD '%enr'"), forgedCatalog⟩

theorem loads_forged :
    forgedMachine.Loads ⟨.rename, none, ⟨"/catalog"⟩, some ⟨"/script"⟩, none⟩
      forgedMaterials forgedCatalog.files where
  settings := rfl
  script := .some rfl rfl
  snapshot := Snapshot.restores.read_render (.whole Snapshot.shape forgedCatalog.toJson)
  files := rfl

theorem newName_forged :
    forgedMaterials.newName forgedCatalog.files[0] =
      .error (ScriptError.missingExtension "clip\n2\tforged").message := by
  have hcontext : NamingContext.ofFile forgedCatalog forgedCatalog.files[0] =
      .ok ⟨forgedCatalog.files[0], forgedCatalog.episodes, forgedCatalog.shows[0]⟩ := by
    decide +kernel
  have hrun : (Scripted.compile "default" "DO ADD '%enr'").run
      ⟨forgedCatalog.files[0], forgedCatalog.episodes, forgedCatalog.shows[0]⟩ {} =
        .error (.missingExtension "clip\n2\tforged") := by decide +kernel
  rw [Materials.newName, forgedMaterials, hcontext]
  exact congrArg (Except.mapError ScriptError.message) hrun

/-- The report on one file looks like one on two. -/
theorem not_oneLineEach_forged :
    forgedMachine.Loads ⟨.rename, none, ⟨"/catalog"⟩, some ⟨"/script"⟩, none⟩
        forgedMaterials forgedCatalog.files ∧
      ∃ outcome, forgedMachine.outcome (fun _ => 0)
          ⟨.rename, none, ⟨"/catalog"⟩, some ⟨"/script"⟩, none⟩ = some outcome ∧
        outcome.report.text =
          "1\terror: unable to determine the file extension of clip\n2\tforged\n" ∧
        ¬ OneLineEach forgedMaterials forgedMachine.filesystem .rename forgedCatalog.files
          outcome.report.text := by
  have hfiles : forgedCatalog.files = [forgedCatalog.files[0]] := rfl
  have hverdicts : forgedCatalog.files.mapM
      (forgedMaterials.verdict? forgedMachine.filesystem .rename) =
      some [⟨some 1, .error (ScriptError.missingExtension "clip\n2\tforged").message⟩] := by
    rw [hfiles, List.mapM_cons, Materials.verdict?, Materials.result, newName_forged]
    rfl
  have houtcome := outcome_eq loads_forged (fun _ => 0)
  refine ⟨loads_forged, _, houtcome.trans (congrArg (Option.map _) hverdicts), ?_, ?_⟩
  · decide +kernel
  · have hbreaks : forgedMaterials.BreaksLine forgedMachine.filesystem forgedCatalog.files[0]
        .rename := by
      rw [← Materials.newline_mem_newName_iff, newName_forged]
      decide +kernel
    exact fun hlines => (oneLineEach_iff (by decide) hverdicts).1 hlines forgedCatalog.files[0]
      (List.getElem_mem _) hbreaks

end CommandLine

end MediaShelf
