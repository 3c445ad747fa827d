import MediaShelf.Library.Loading
import Mathlib.Control.Basic

/-!
# Names, destinations and plans of one file

Between a script and the user stand a strategy, the strategies that are tried in its place, and two
kinds of errors. None of this can be seen from outside: with one strategy the order of trying is no
matter, a failure that is deferred has nobody to go to, and messages are only handed on. So what a
library of settings says about a file is what the script or placement says (`renameFile_eq`,
`placeFile_eq`).

That a plan agrees with the name and the destination has nothing to do with scripts and holds of
every library (`planFile_eq`).
-/

namespace MediaShelf

namespace Strategies

theorem select_singleton (strategy : Strategy) (deferOnError : Bool) (preferred : String) :
    (Strategies.mk [strategy] deferOnError).select preferred = [strategy] := by
  rw [select, List.filter_cons, List.filter_cons, bne]
  cases strategy.id == preferred <;> rfl

/-- A strategy with no other one behind it has the only word, also if failures are deferred. -/
theorem attempt_singleton {m : Type → Type} [Monad m] [LawfulMonad m] {α : Type}
    (deferOnError : Bool) (action : Strategy → m (Except LibraryError α)) (failure : LibraryError)
    (strategy : Strategy) :
    attempt deferOnError action failure [strategy] = action strategy := by
  rw [attempt]
  refine (bind_congr fun result => ?_).trans (bind_pure _)
  cases result with
  | ok a => rfl
  | error error => cases deferOnError <;> rfl

end Strategies

/-! ## Plans of any library -/

namespace Library

/-- A result as the user is told about it. -/
def told {α : Type} (result : Except LibraryError α) : Except String α :=
  result.mapError LibraryError.message

/-- What is told about a plan, from what is told about the name and about the destination. The
destination counts only if there is a name. -/
def planned (named : Except String String) (placed : Option (Except String Destination)) :
    Option (Except String Path) :=
  match named with
  | .error reason => some (.error reason)
  | .ok name => placed.map fun result => result.map fun destination => destination.path.join ⟨name⟩

theorem planFile_eq (library : Library) (snapshot : Snapshot) (filesystem : Filesystem)
    (file : MediaFile) :
    (library.planFile snapshot filesystem file).map (fun result => (told result).map (·.path)) =
      planned (told (library.renameFile snapshot file))
        ((library.placeFile snapshot filesystem file).map told) := by
  rw [planFile]
  cases library.renameFile snapshot file with
  | error error => rfl
  | ok name =>
      cases library.placeFile snapshot filesystem file with
      | none => rfl
      | some placed => cases placed <;> rfl

theorem fileId_of_planFile {library : Library} {snapshot : Snapshot} {filesystem : Filesystem}
    {file : MediaFile} {plan : Plan}
    (h : library.planFile snapshot filesystem file = some (.ok plan)) : plan.fileId = file.id := by
  rw [planFile] at h
  split at h
  · obtain ⟨placed, -, hplaced⟩ := Option.map_eq_some_iff.1 h
    cases placed with
    | ok destination => rw [← Except.ok.inj hplaced]
    | error error => cases hplaced
  · cases h

end Library

/-! ## Libraries of settings -/

/-- What the library of some settings works from. -/
structure Materials where
  settings : Settings
  script : Option Script
  /-- The snapshot of the catalog. -/
  snapshot : Snapshot

namespace Materials

def library (materials : Materials) : Library :=
  .ofScript materials.settings materials.script

/-- The new name of a file, or what the catalog or the script says about its failure. -/
def newName (materials : Materials) (file : MediaFile) : Except String String :=
  match NamingContext.ofFile materials.snapshot file with
  | .error error => .error error.message
  | .ok ctx =>
    match materials.script with
    | some script =>
      (script.run ctx materials.settings.rename.options).mapError ScriptError.message
    | none => .error LibraryError.scriptUnavailable.message

/-- The destination of a file, or what placement says about its failure. -/
def destination? (materials : Materials) (filesystem : Filesystem) (file : MediaFile) :
    Option (Except String Destination) :=
  (resolveDestination materials.snapshot filesystem materials.settings.placement.options file).map
    (·.mapError PlacementError.message)

theorem renameFile_eq (materials : Materials) (file : MediaFile) :
    Library.told (materials.library.renameFile materials.snapshot file) =
      materials.newName file := by
  rw [Library.renameFile, newName]
  cases NamingContext.ofFile materials.snapshot file with
  | error error => rfl
  | ok ctx =>
      simp only [library, Library.ofScript, Strategies.rename, Strategies.select_singleton,
        Strategies.attempt_singleton, Scripted.strategy, Scripted.rename]
      cases materials.script with
      | none => rfl
      | some script =>
          simp only
          cases script.run ctx materials.settings.rename.options <;> rfl

theorem placeFile_eq (materials : Materials) (filesystem : Filesystem) (file : MediaFile) :
    (materials.library.placeFile materials.snapshot filesystem file).map Library.told =
      materials.destination? filesystem file := by
  simp only [library, Library.ofScript, Library.placeFile, Strategies.place,
    Strategies.select_singleton, Strategies.attempt_singleton, Scripted.strategy, Scripted.place,
    destination?, Option.map_map]
  congr 1
  funext result
  cases result <;> rfl

end Materials

end MediaShelf
