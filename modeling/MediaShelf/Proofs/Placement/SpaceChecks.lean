import MediaShelf.Proofs.Placement.Agreement
import Mathlib.Data.List.Basic

/-!
# Placement without a look at the room

When space checks are skipped, a directory is usable if it exists, and that is the one question left
to ask. So a filesystem has a say only through `isDir`: two filesystems that agree on it lead to the
same result for every file, however large (`resolveDestination_congr_of_skips`). Neither
`sameVolume` nor `freeBytes` is asked, and so none of their failures can show either, nor can a
silence of theirs keep the search from ending.

On a table of volumes, `isDir` reads the listed directories and the paths in trouble. The volumes
could be any, and so could their free bytes.
-/

namespace MediaShelf

namespace Placement

variable {placement p q : Placement}

theorem fits_of_skips (h : placement.options.skipSpaceChecks = true) (folder : Folder) :
    placement.fits folder = some (.ok true) := by
  simp only [fits, h, if_true]

/-- Without a look at the room, the reply about the directory decides. -/
theorem isUsable_of_skips (h : placement.options.skipSpaceChecks = true) (folder : Folder)
    (directory : Path) :
    placement.isUsable folder directory =
      match placement.options.await directory (placement.filesystem.isDir directory) with
      | some (.ok found) => some found
      | some (.error _) => some false
      | none => none := by
  rw [isUsable, fits_of_skips h]
  cases placement.options.await directory (placement.filesystem.isDir directory) with
  | none => rfl
  | some reply =>
      cases reply with
      | error error => rfl
      | ok found => cases found <;> rfl

theorem isUsable_congr_of_skips (hskips : p.options.skipSpaceChecks = true)
    (hoptions : p.options = q.options)
    (hdir : ∀ path, p.filesystem.isDir path = q.filesystem.isDir path) (folder : Folder)
    (directory : Path) : p.isUsable folder directory = q.isUsable folder directory := by
  rw [isUsable_of_skips hskips, isUsable_of_skips (hoptions ▸ hskips), hdir, hoptions]

end Placement

/-- Placement that skips space checks asks which directories exist, and nothing else. -/
theorem resolveDestination_congr_of_skips {options : PlacementOptions}
    (hskips : options.skipSpaceChecks = true) {one two : Filesystem}
    (hdir : ∀ path, one.isDir path = two.isDir path) (snapshot : Snapshot) (file : MediaFile)
    (size : UInt64) :
    resolveDestination snapshot one options file =
      resolveDestination snapshot two options { file with size } := by
  refine resolveDestination_congr rfl rfl rfl rfl fun home here folder directory => ?_
  exact Placement.isUsable_congr_of_skips (p := ⟨snapshot, one, options, file, home, here⟩)
    (q := ⟨snapshot, two, options, { file with size }, home, here⟩) hskips rfl hdir folder directory

namespace VolumeTable

/-- Two tables that list the same directories and the same paths in trouble. The volumes that the
directories are on may be any, with any number of free bytes. -/
structure SamePaths (a b : VolumeTable) : Prop where
  directories : ∀ path,
    listed (a.directories.map (·.1)) path = listed (b.directories.map (·.1)) path
  failing : ∀ path, listed a.failing path = listed b.failing path
  hanging : ∀ path, listed a.hanging path = listed b.hanging path

theorem SamePaths.isDir_eq {a b : VolumeTable} (h : a.SamePaths b) (path : Path) :
    a.filesystem.isDir path = b.filesystem.isDir path := by
  show a.isDir path = b.isDir path
  rw [isDir, isDir, reply, reply, h.hanging, h.failing, h.directories]

end VolumeTable

namespace Placement

/-- With space checks skipped, volumes, free bytes and the size of the file have no part in the
result, and none in whether there is one. -/
theorem resolveDestination_ignores_space {options : PlacementOptions}
    (hskips : options.skipSpaceChecks = true) {a b : VolumeTable} (hpaths : a.SamePaths b)
    (snapshot : Snapshot) (file : MediaFile) (size other : UInt64) :
    resolveDestination snapshot a.filesystem options { file with size } =
      resolveDestination snapshot b.filesystem options { file with size := other } :=
  resolveDestination_congr_of_skips hskips hpaths.isDir_eq snapshot { file with size } other

/-- The directories of the sample with the share in place, all of them on one full volume. -/
def fullTable : VolumeTable where
  volumes := [(7, 0)]
  directories := [(⟨"/gone/Mushishi 2"⟩, 7), (⟨"/gone"⟩, 7), (⟨"/tv//Mushishi"⟩, 7), (⟨"/tv"⟩, 7),
    (⟨"/in"⟩, 7)]

theorem samePaths_fullTable (free : UInt64) : (shareTable free).SamePaths fullTable where
  directories path := by
    simp only [VolumeTable.listed, shareTable, fullTable, List.map_cons, List.map_nil,
      List.any_cons, List.any_nil, Path.sameAs]
    have hspelling : (Path.mk "/tv//Mushishi").components = (Path.mk "/tv/Mushishi").components := by
      decide +kernel
    rw [hspelling]
    ac_rfl
  failing _ := rfl
  hanging _ := rfl

/-- A file that fits nowhere goes to the newest sibling all the same. -/
theorem resolveDestination_ignores_space_full :
    ({ skipSpaceChecks := true } : PlacementOptions).skipSpaceChecks = true ∧
      (shareTable 100).SamePaths fullTable ∧
      resolveDestination sampleCatalog fullTable.filesystem { skipSpaceChecks := true }
          (sampleFile 18446744073709551615 ⟨"new.mkv"⟩) =
        some (.ok ⟨sampleCatalog.folders[2], ⟨"Mushishi 2"⟩⟩) := by
  refine ⟨rfl, samePaths_fullTable 100, ?_⟩
  have hshare : resolveDestination sampleCatalog (shareTable 100).filesystem
      { skipSpaceChecks := true } (sampleFile 10 ⟨"new.mkv"⟩) =
        some (.ok ⟨sampleCatalog.folders[2], ⟨"Mushishi 2"⟩⟩) := by
    have hsettles : (shareTable 100).filesystem.Settles { skipSpaceChecks := true } :=
      ⟨fun _ _ => by decide, fun _ _ => by decide, fun _ _ _ => by decide⟩
    rw [resolveDestination_sampleFile hsettles]
    decide +kernel
  rw [← hshare]
  exact (resolveDestination_ignores_space rfl (samePaths_fullTable 100) sampleCatalog
    (sampleFile 10 ⟨"new.mkv"⟩) 10 18446744073709551615).symm

end Placement

end MediaShelf
