import MediaShelf.Proofs.Placement.Decision

/-!
# Every answer of placement is a decision

`resolveDestination_decides` is about filesystems on which every query settles. On any other one
placement may never come to an end. But if it does, nothing that stayed silent has been asked, and
the answer is the one that the rules allow (`decision_of_resolveDestination`). So whatever is to be
said about the answers of placement, on whatever filesystem, can be read off the rules.
-/

namespace MediaShelf.Placement

variable {placement : Placement}

/-! ## Loops that come to an end -/

theorem firstUsable_eq_of_some {folders : List Folder} {found : Option Folder}
    (h : placement.firstUsable folders = some found) :
    found = folders.find? fun folder => placement.isUsable folder folder.path == some true := by
  induction folders with
  | nil => exact (Option.some.inj h).symm
  | cons folder rest ih =>
      rw [firstUsable] at h
      rw [List.find?_cons]
      split at h
      · next husable =>
          rw [husable]
          exact (Option.some.inj h).symm
      · next husable =>
          rw [husable]
          exact ih h
      · cases h

theorem visitFiles_eq_of_some {files : List MediaFile} {found : Option Destination}
    (h : placement.visitFiles files = some found) : found = files.findSome? placement.offer? := by
  induction files with
  | nil => exact (Option.some.inj h).symm
  | cons sibling rest ih =>
      rw [visitFiles] at h
      rw [List.findSome?_cons, offer?]
      split at h
      · next destination hconsider =>
          rw [hconsider, Option.filter_some]
          split at h
          · next husable =>
              rw [husable]
              exact (Option.some.inj h).symm
          · next husable =>
              rw [husable]
              exact ih h
          · cases h
      · next hconsider =>
          rw [hconsider]
          exact ih h

theorem visitEpisodes_eq_of_some {visited : List Episode} {found : Option Destination}
    (h : placement.visitEpisodes visited = some found) :
    found = (linkedFiles placement.snapshot visited).findSome? placement.offer? := by
  induction visited with
  | nil => exact (Option.some.inj h).symm
  | cons episode rest ih =>
      rw [visitEpisodes] at h
      rw [linkedFiles]
      split at h
      · next hshows =>
          rw [List.filter_cons_of_neg (by simpa using isCrossover_iff.2 hshows)]
          exact ih h
      · next hshows =>
          rw [List.filter_cons_of_pos (by simpa using mt isCrossover_iff.1 hshows),
            List.flatMap_cons, List.findSome?_append]
          split at h
          · next destination hfiles =>
              rw [← visitFiles_eq_of_some hfiles]
              exact (Option.some.inj h).symm
          · next hfiles =>
              rw [← visitFiles_eq_of_some hfiles]
              exact ih h
          · cases h

/-! ## The answer -/

variable {snapshot : Snapshot} {filesystem : Filesystem} {options : PlacementOptions}
  {file : MediaFile}

theorem destination_eq_of_some {fallback : Option Folder} {episode : Episode} {series : Series}
    {result : Except PlacementError Destination}
    (hfallback : placement.firstUsable placement.snapshot.defaultDestinations = some fallback)
    (hlinked : (placement.snapshot.episodesOfFile placement.file.hash).head? = some episode)
    (hseries : placement.snapshot.seriesOfShow? episode.showId = some series)
    (h : placement.destination fallback = some result) :
    result = placement.outcome series (linkedFiles placement.snapshot
      (newestFirst (placement.snapshot.episodesOfSeries series.id))) := by
  obtain ⟨rest, hepisodes⟩ := List.head?_eq_some_iff.1 hlinked
  rw [destination, hepisodes] at h
  simp only [hseries] at h
  obtain ⟨suggested, hvisit, rfl⟩ := Option.map_eq_some_iff.1 h
  rw [visitEpisodes_eq_of_some hvisit, firstUsable_eq_of_some hfallback]
  rfl

theorem decision_of_resolveDestination {result : Except PlacementError Destination}
    (h : resolveDestination snapshot filesystem options file = some result) :
    Decision snapshot filesystem options file result := by
  rw [resolveDestination] at h
  split at h
  · next hlocate =>
      obtain rfl := Option.some.inj h
      exact .noLocation (locate?_eq_none_iff.1 hlocate)
  · next folder location hlocate =>
      have hat := isAt_iff.2 hlocate
      simp only [] at h
      split at h
      · next fallback hfallback =>
          cases hepisodes : snapshot.episodesOfFile file.hash with
          | nil =>
              simp only [destination, hepisodes] at h
              obtain rfl := Option.some.inj h
              exact .noCrossReferences hat hepisodes
          | cons episode rest =>
              have hlinked : (snapshot.episodesOfFile file.hash).head? = some episode := by
                rw [hepisodes, List.head?_cons]
              cases hseries : snapshot.seriesOfShow? episode.showId with
              | none =>
                  simp only [destination, hepisodes, hseries] at h
                  obtain rfl := Option.some.inj h
                  exact .seriesNotFound hat hlinked hseries
              | some series =>
                  rw [destination_eq_of_some hfallback hlinked hseries h]
                  exact .searched hat hlinked hseries (newestFirst_spec _)
                    (search_outcome _ series _)
      · cases h

end MediaShelf.Placement
