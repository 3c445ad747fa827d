import MediaShelf.Proofs.Placement.Agreement
import MediaShelf.Proofs.Placement.Volumes

/-!
# Trouble with queries

With a limit that passes some day, trouble has no name of its own in the result. Before the search
begins, the catalog alone may say that there is nothing to search for; once it begins, a directory
whose queries fail or stay silent is unusable like any other, and all that the trouble can do is
leave no destination. So it does not matter either which kind of trouble it is: a query that fails
and one that is given up lead to the same result.
-/

namespace MediaShelf

namespace Placement

/-- The searches end with a destination or without one, in no other way. -/
theorem outcome_eq_noDestination_or_ok (placement : Placement) (series : Series)
    (files : List MediaFile) :
    placement.outcome series files = .error .noDestination ∨
      ∃ destination, placement.outcome series files = .ok destination := by
  rw [outcome]
  split
  · next destination _ => exact Or.inr ⟨destination, rfl⟩
  · exact Or.inl rfl

variable {snapshot : Snapshot} {options : PlacementOptions} {file : MediaFile}

/-- Directories are usable on a table if and only if they are on one like it. -/
theorem usable_iff_of_alike {a b : VolumeTable} (h : a.Alike b) {home folder : Folder}
    {here directory : Path} :
    (Placement.mk snapshot a.filesystem options file home here).Usable folder directory ↔
      (Placement.mk snapshot b.filesystem options file home here).Usable folder directory :=
  ⟨Usable.mono h.noRoomier UInt64.le_rfl id, Usable.mono h.symm.noRoomier UInt64.le_rfl id⟩

/-- If silent queries are given up, the error of a file is one of the catalog and the same on every
filesystem, or it is that no destination is left; and tables that differ in nothing but the kind of
their trouble lead to the same result. -/
theorem trouble_decides_nothing (h : options.givesUp = true) (snapshot : Snapshot)
    (file : MediaFile) :
    ((∃ error ∈ [PlacementError.noLocation file.id, .noCrossReferences, .seriesNotFound],
        ∀ filesystem, resolveDestination snapshot filesystem options file = some (.error error)) ∨
      ∀ filesystem,
        resolveDestination snapshot filesystem options file = some (.error .noDestination) ∨
        ∃ destination,
          resolveDestination snapshot filesystem options file = some (.ok destination)) ∧
      ∀ a b : VolumeTable, a.Alike b →
        resolveDestination snapshot a.filesystem options file =
          resolveDestination snapshot b.filesystem options file := by
  have hsettles (filesystem : Filesystem) : filesystem.Settles options :=
    Filesystem.settles_of_givesUp h filesystem
  constructor
  · -- The rule that applies on one filesystem says whether the search begins, here and elsewhere.
    have hsome : ∃ result, Decision snapshot ({} : VolumeTable).filesystem options file result :=
      (exists_decision (hsettles _)).imp fun _ h => h.2
    obtain ⟨_, hdecision⟩ := hsome
    cases hdecision with
    | noLocation hunknown =>
        refine Or.inl ⟨.noLocation file.id, by simp, fun filesystem => ?_⟩
        exact (Decision.noLocation hunknown).resolveDestination_eq (hsettles filesystem)
    | noCrossReferences hat hunlinked =>
        refine Or.inl ⟨.noCrossReferences, by simp, fun filesystem => ?_⟩
        exact (Decision.noCrossReferences hat hunlinked).resolveDestination_eq
          (hsettles filesystem)
    | seriesNotFound hat hlinked hunknown =>
        refine Or.inl ⟨.seriesNotFound, by simp, fun filesystem => ?_⟩
        exact (Decision.seriesNotFound hat hlinked hunknown).resolveDestination_eq
          (hsettles filesystem)
    | searched hat hlinked hknown horder hsearch =>
        refine Or.inr fun filesystem => ?_
        rw [resolveDestination_eq_outcome (hsettles filesystem) hat hlinked hknown]
        simp only [Option.some.injEq]
        exact outcome_eq_noDestination_or_ok _ _ _
  · intro a b halike
    refine resolveDestination_congr rfl rfl rfl rfl fun home here folder directory => ?_
    exact isUsable_congr (hsettles a.filesystem) (hsettles b.filesystem)
      (usable_iff_of_alike halike)

/-- The newest sibling is on the share and passed over, whether the share is silent or not. -/
theorem trouble_decides_nothing_share :
    ({} : PlacementOptions).givesUp = true ∧
      VolumeTable.Alike { shareTable 100 with hanging := [⟨"/gone"⟩] }
        { shareTable 100 with failing := [⟨"/gone"⟩] } ∧
      resolveDestination sampleCatalog
          ({ shareTable 100 with hanging := [⟨"/gone"⟩] } : VolumeTable).filesystem {}
          (sampleFile 10 ⟨"new.mkv"⟩) =
        some (.ok ⟨sampleCatalog.folders[1], ⟨"Mushishi"⟩⟩) := by
  have hlimit : ({} : PlacementOptions).givesUp = true := by decide
  have halike : VolumeTable.Alike { shareTable 100 with hanging := [⟨"/gone"⟩] }
      { shareTable 100 with failing := [⟨"/gone"⟩] } := by
    refine ⟨fun _ => rfl, fun _ => rfl, fun path => ?_⟩
    exact Bool.or_comm (VolumeTable.listed [] path) (VolumeTable.listed [⟨"/gone"⟩] path)
  have hfailing : resolveDestination sampleCatalog
      ({ shareTable 100 with failing := [⟨"/gone"⟩] } : VolumeTable).filesystem {}
      (sampleFile 10 ⟨"new.mkv"⟩) = some (.ok ⟨sampleCatalog.folders[1], ⟨"Mushishi"⟩⟩) := by
    rw [resolveDestination_sampleFile (VolumeTable.settles (Or.inr rfl))]
    decide +kernel
  obtain ⟨-, hkind⟩ := trouble_decides_nothing hlimit sampleCatalog (sampleFile 10 ⟨"new.mkv"⟩)
  exact ⟨hlimit, halike, (hkind _ _ halike).trans hfailing⟩

end Placement

end MediaShelf
