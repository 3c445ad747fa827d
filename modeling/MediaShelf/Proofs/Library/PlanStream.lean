import MediaShelf.Library.PlanStream
import MediaShelf.Proofs.Library.Workload

/-!
# The stream of plans

Every file is the subject of one event, in whatever order the files are done, and the stream ends
behind the last of them. The account of jobs in a workload says most of that; what is left is that
the events are made one by one from the reports, and that a file which cannot be planned makes an
event like the others.
-/

namespace MediaShelf.Library

/-- If the planning of every file ends, the stream is made of one event for each report. -/
theorem planStream_eq {library : Library} {snapshot : Snapshot} {filesystem : Filesystem}
    {files : List MediaFile} {results : MediaFile → Except LibraryError Plan}
    (h : ∀ file ∈ files, library.planFile snapshot filesystem file = some (results file))
    (schedule : Nat → Nat) :
    library.planStream snapshot filesystem schedule files =
      some (.started :: .discovered files.length ::
        ((Workload.order schedule planLimit files).map (fun file =>
          PlanEvent.ofResult file (results file)) ++ [.complete])) := by
  have hitems : ∀ reported : List MediaFile, (∀ file ∈ reported, file ∈ files) →
      (reported.mapM fun file =>
        (library.planFile snapshot filesystem file).map (PlanEvent.ofResult file)) =
      some (reported.map fun file => PlanEvent.ofResult file (results file)) := by
    intro reported hmem
    induction reported with
    | nil => rfl
    | cons file rest ih =>
        rw [List.forall_mem_cons] at hmem
        rw [List.mapM_cons, h file hmem.1, ih hmem.2]
        rfl
  have hperm : (Workload.order schedule planLimit files).Perm files :=
    Workload.order_perm schedule (by decide) files
  rw [planStream, hitems _ fun file hfile => hperm.mem_iff.1 hfile]
  rfl

/-- The stream starts with the number of files, has one item for each file, and then is complete.
The items are the results of the files in some order. Every order in which the files can be done
comes about, and all the way there are at most `planLimit` files in flight, the files that have
started are the first ones, and no file waits while nothing is in flight. -/
theorem planStream_accounts (library : Library) (snapshot : Snapshot) (filesystem : Filesystem)
    (files : List MediaFile) :
    (∀ results : MediaFile → Except LibraryError Plan,
      (∀ file ∈ files, library.planFile snapshot filesystem file = some (results file)) →
      (∀ schedule, ∃ items, library.planStream snapshot filesystem schedule files =
          some (.started :: .discovered files.length :: (items ++ [.complete])) ∧
        items.Perm (files.map fun file =>
          match results file with
          | .ok plan => .planned plan
          | .error error => .failed (.notPlanned file.id error.message))) ∧
      (∀ last, (Workload.start planLimit files).Reaches last → last.AtRest →
        ∃ schedule, library.planStream snapshot filesystem schedule files =
          some (.started :: .discovered files.length ::
            (last.reported.map (fun file => PlanEvent.ofResult file (results file)) ++
              [.complete])))) ∧
    (∀ moment, (Workload.start planLimit files).Reaches moment →
      moment.inFlight.length ≤ planLimit ∧
      (∃ count, moment.waiting = files.drop count ∧
        (moment.reported ++ moment.inFlight).Perm (files.take count)) ∧
      (moment.phase = .awaiting → moment.waiting ≠ [] → moment.running ≠ [])) := by
  have hlimit : 0 < planLimit := by decide
  refine ⟨fun results h => ⟨fun schedule => ⟨_, planStream_eq h schedule, ?_⟩, ?_⟩, ?_⟩
  · refine ((Workload.order_perm schedule hlimit files).map _).trans (.of_eq ?_)
    refine List.map_congr_left fun file _ => ?_
    cases results file <;> rfl
  · intro last hreach hrest
    obtain ⟨schedule, hdrain⟩ := hreach.exists_schedule hrest
    refine ⟨schedule, ?_⟩
    rw [planStream_eq h schedule, Workload.order, hdrain]
  · intro moment hreach
    have haccounts := hreach.accounts
    exact ⟨Nat.le_trans moment.inFlight_length_le haccounts.slots_le, haccounts.started,
      haccounts.running_ne_nil hlimit⟩

/-- A way to name files and to place them that never fails. -/
def sampleStrategy : Strategy where
  id := "fixed"
  rename _ := .ok "new.mkv"
  place _ _ _ := some (.ok ⟨{ id := 1, path := ⟨"/tv"⟩ }, ⟨"Mushishi"⟩⟩)

/-- An episode with a file. -/
def sampleCatalog : Snapshot where
  shows := [{ id := 1 }]
  episodes := [{ id := 10, showId := 1, number := 1 }]
  crossReferences := [⟨"AA", 10, 1⟩]

/-- The file of the episode, another one, and the first one again. -/
def sampleFiles : List MediaFile := [
  { id := 1, fileName := "01.mkv", hash := "aa", size := 10 },
  { id := 2, fileName := "02.mkv", hash := "bb", size := 10 },
  { id := 1, fileName := "01.mkv", hash := "aa", size := 10 }]

/-- A file without an episode fails, and the others are planned all the same. -/
theorem planStream_accounts_sample :
    let library : Library := ⟨⟨[sampleStrategy], true⟩, "fixed"⟩
    let filesystem : Filesystem := ⟨fun _ => .silent, fun _ => .silent, fun _ _ => .silent⟩
    let plan : Plan := ⟨1, "new.mkv", ⟨{ id := 1, path := ⟨"/tv"⟩ }, ⟨"Mushishi"⟩⟩⟩
    let results : MediaFile → Except LibraryError Plan := fun file =>
      if file.id = 1 then .ok plan else .error .noEpisodes
    (∀ file ∈ sampleFiles,
      library.planFile sampleCatalog filesystem file = some (results file)) ∧
    ∀ schedule, ∃ items, library.planStream sampleCatalog filesystem schedule sampleFiles =
        some (.started :: .discovered 3 :: (items ++ [.complete])) ∧
      items.Perm [.planned plan,
        .failed (.notPlanned 2 "file has no linked episodes"), .planned plan] := by
  intro library filesystem plan results
  have hresults : ∀ file ∈ sampleFiles,
      library.planFile sampleCatalog filesystem file = some (results file) := by
    simp only [sampleFiles, List.forall_mem_cons]
    exact ⟨by decide +kernel, by decide +kernel, by decide +kernel, by simp⟩
  exact ⟨hresults,
    ((planStream_accounts library sampleCatalog filesystem sampleFiles).1 results hresults).1⟩

end MediaShelf.Library
