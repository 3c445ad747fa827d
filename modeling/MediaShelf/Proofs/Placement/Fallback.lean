import MediaShelf.Proofs.Path
import MediaShelf.Proofs.Placement.Answer
import MediaShelf.Proofs.Script.SafeName

/-!
# Where the fallback directory lies

Where no sibling helps, a file goes into a directory that has the safe name of its series. A safe
name has no separator in it, so it takes at most one step, and the place is the folder itself or one
step away from it.

It is not always a step down. Nothing keeps a name from being empty after its control characters are
dropped, and a file then lands in the folder itself, as it does where the name is a dot. Two dots
lead out of the folder. Three dots are an ellipsis and do no harm, so these are all
(`isDirectlyInside_iff`).
-/

namespace MediaShelf

/-- A destination one step below its folder: the directory has a proper name and nothing else. -/
structure Destination.IsDirectlyInside (destination : Destination) (name : List Char) : Prop where
  text : destination.relativePath.text = String.ofList name
  separator : '/' ∉ name
  step : destination.relativePath.components = [.entry name]
  path : destination.path.components = destination.folder.path.components ++ [.entry name]

/-- The name of a series is not empty, nor a dot or two, where control characters do not count. -/
def Series.NamesDirectory (series : Series) : Prop :=
  ∀ count < 3, shownChars series.name.toList ≠ List.replicate count '.'

namespace Placement

/-! ## The directory of a series -/

theorem separator_not_mem_safeChars (cs : List Char) : '/' ∉ safeChars cs :=
  not_mem_safeChars (by decide) (by decide) cs

theorem safeChars_ne_dots {series : Series} (h : series.NamesDirectory) {count : Nat}
    (hcount : count < 3) : safeChars series.name.toList ≠ List.replicate count '.' :=
  mt (safeChars_eq_dots_iff hcount).1 (h count hcount)

theorem relativePath_seriesDirectory (series : Series) (folder : Folder) :
    (seriesDirectory series folder).relativePath.text.toList = safeChars series.name.toList :=
  String.toList_ofList

theorem isDirectlyInside_seriesDirectory {series : Series} (h : series.NamesDirectory)
    (folder : Folder) :
    (seriesDirectory series folder).IsDirectlyInside (safeChars series.name.toList) := by
  have hseparator := separator_not_mem_safeChars series.name.toList
  have htext := relativePath_seriesDirectory series folder
  obtain ⟨hstep, hsteps⟩ := Path.steps_of_name hseparator (safeChars_ne_dots h (by omega : 0 < 3))
    (safeChars_ne_dots h (by omega : 1 < 3)) (safeChars_ne_dots h (by omega : 2 < 3))
  have hrelative : (seriesDirectory series folder).relativePath.isAbsolute = false := by
    rw [Path.isAbsolute, htext, beq_eq_false_iff_ne]
    intro hhead
    exact hseparator (List.mem_of_mem_head? hhead)
  have hcomponents : (seriesDirectory series folder).relativePath.components =
      [.entry (safeChars series.name.toList)] := by
    rw [Path.components, htext, hstep]
  refine ⟨rfl, hseparator, hcomponents, ?_⟩
  rw [Destination.path]
  by_cases hfolder : (seriesDirectory series folder).folder.path.text = ""
  · have hnone : (seriesDirectory series folder).folder.path.components = [] := by
      rw [Path.components, hfolder]
      rfl
    rw [Path.components_join_empty hfolder hrelative, hcomponents, hnone, List.nil_append]
  · rw [Path.components_join hfolder hrelative, htext, hsteps]

theorem components_dots (count : Nat) (h : count < 3) (name : List Char) :
    Path.componentsOf (List.replicate count '.') ≠ [.entry name] := by
  match count with
  | 0 => exact fun h => nomatch h
  | 1 => exact fun h => nomatch h
  | 2 => exact fun h => nomatch h
  | count + 3 => omega

/-- The directory of a series is one step below its folder, unless the name of the series is nothing
or just a dot or two. -/
theorem isDirectlyInside_iff (series : Series) (folder : Folder) :
    (∃ name, (seriesDirectory series folder).IsDirectlyInside name) ↔ series.NamesDirectory := by
  constructor
  · rintro ⟨name, hinside⟩ count hcount hdots
    have hstep := hinside.step
    rw [Path.components, relativePath_seriesDirectory, (safeChars_eq_dots_iff hcount).2 hdots] at hstep
    exact components_dots count hcount name hstep
  · intro h
    exact ⟨_, isDirectlyInside_seriesDirectory h folder⟩

/-! ## Falling back -/

/-- No file that is linked to the series of a file offers a place for it. A destination that is found
all the same is a default one. -/
def Alone (snapshot : Snapshot) (filesystem : Filesystem) (options : PlacementOptions)
    (file : MediaFile) : Prop :=
  ∀ {home : Folder} {location : Location} {episode : Episode} {series : Series},
    IsAt snapshot file home location →
    (snapshot.episodesOfFile file.hash).head? = some episode →
    snapshot.seriesOfShow? episode.showId = some series →
    ∀ sibling ∈ linkedFiles snapshot (snapshot.episodesOfSeries series.id), ∀ place,
      ¬ Offers ⟨snapshot, filesystem, options, file, home, home.path.join location.directory⟩
        sibling place

variable {snapshot : Snapshot} {filesystem : Filesystem} {options : PlacementOptions}
  {file : MediaFile}

theorem mem_linkedFiles_iff {visited : List Episode} {sibling : MediaFile} :
    sibling ∈ linkedFiles snapshot visited ↔
      ∃ episode ∈ visited, ¬ IsCrossover snapshot episode ∧
        sibling ∈ snapshot.filesOfEpisode episode.id := by
  simp only [linkedFiles, List.mem_flatMap, List.mem_filter, decide_eq_true_eq, and_assoc]

/-- A destination that is found without an offer is the directory of the series in one of the
default destinations. -/
theorem eq_seriesDirectory_of_alone {destination : Destination}
    (h : resolveDestination snapshot filesystem options file = some (.ok destination))
    (halone : Alone snapshot filesystem options file) :
    ∃ series ∈ snapshot.series, ∃ folder ∈ snapshot.defaultDestinations,
      destination = seriesDirectory series folder := by
  cases decision_of_resolveDestination h with
  | searched hat hlinked hknown horder hsearch =>
      cases hsearch with
      | @beside before after sibling destination hsplit hpassed hoffers =>
          have hmem : sibling ∈ linkedFiles snapshot _ :=
            hsplit ▸ List.mem_append_right _ List.mem_cons_self
          obtain ⟨episode, hepisode, hrest⟩ := mem_linkedFiles_iff.1 hmem
          have hvisited := horder.perm.mem_iff.1 hepisode
          exact absurd hoffers (halone hat hlinked hknown sibling
            (mem_linkedFiles_iff.2 ⟨episode, hvisited, hrest⟩) destination)
      | @fallback before after folder hnone hsplit hpassed htarget husable =>
          have hmem : folder ∈ snapshot.folders :=
            hsplit ▸ List.mem_append_right _ List.mem_cons_self
          exact ⟨_, List.mem_of_find?_eq_some hknown, folder,
            mem_defaultDestinations_iff.2 ⟨hmem, htarget⟩, rfl⟩

/-- A default destination is one step below its folder exactly when the name of the series, without
its control characters, is more than a dot or two. -/
theorem fallback_isDirectlyInside_iff {destination : Destination}
    (h : resolveDestination snapshot filesystem options file = some (.ok destination))
    (halone : Alone snapshot filesystem options file) :
    ∃ series ∈ snapshot.series, ∃ folder ∈ snapshot.defaultDestinations,
      destination = seriesDirectory series folder ∧
        ((∃ name, destination.IsDirectlyInside name) ↔ series.NamesDirectory) := by
  obtain ⟨series, hseries, folder, hfolder, rfl⟩ := eq_seriesDirectory_of_alone h halone
  exact ⟨series, hseries, folder, hfolder, rfl, isDirectlyInside_iff series folder⟩

/-- A folder for files for which nothing better is known. -/
def library : Folder := { id := 2, path := ⟨"/library"⟩, isDropDestination := true }

/-- A file that has just come in. -/
def newcomer : MediaFile :=
  { id := 1, fileName := "01.mkv", hash := "aa", size := 10, locations := [⟨1, ⟨"01.mkv"⟩⟩] }

/-- The first file of a series with a name. -/
def firstOf (name : String) : Snapshot where
  series := [⟨1, 1, name⟩]
  episodes := [{ id := 10, showId := 1, number := 1 }]
  files := [newcomer]
  crossReferences := [⟨"aa", 10, 1⟩]
  folders := [{ id := 1, path := ⟨"/in"⟩, isDropSource := true }, library]

/-- Two folders on one volume. -/
def oneVolume : VolumeTable where
  volumes := [(1, 100)]
  directories := [(⟨"/in"⟩, 1), (⟨"/library"⟩, 1)]

/-- The only file of a catalog is no sibling of its own. -/
theorem alone_firstOf (name : String) :
    Alone (firstOf name) oneVolume.filesystem {} newcomer := by
  intro home location episode series hat hlinked hknown sibling hsibling place hoffers
  obtain ⟨other, -, -, hfile⟩ := mem_linkedFiles_iff.1 hsibling
  have hsame : sibling = newcomer := List.mem_singleton.1 (List.mem_filter.1 hfile).1
  have hother : Text.sameIgnoringCase sibling.hash newcomer.hash = false := hoffers.1.other
  rw [hsame, Text.sameIgnoringCase, beq_self_eq_true] at hother
  cases hother

/-- Three dots name a directory, because they are an ellipsis. -/
theorem fallback_isDirectlyInside_threeDots :
    resolveDestination (firstOf "...") oneVolume.filesystem {} newcomer =
        some (.ok ⟨library, ⟨"…"⟩⟩) ∧
      Alone (firstOf "...") oneVolume.filesystem {} newcomer ∧
      ∃ name, (Destination.mk library ⟨"…"⟩).IsDirectlyInside name := by
  have hresolve : resolveDestination (firstOf "...") oneVolume.filesystem {} newcomer =
      some (.ok ⟨library, ⟨"…"⟩⟩) := by
    decide +kernel
  refine ⟨hresolve, alone_firstOf _, ?_⟩
  obtain ⟨series, hseries, folder, -, -, hiff⟩ :=
    fallback_isDirectlyInside_iff hresolve (alone_firstOf _)
  obtain rfl := List.mem_singleton.1 hseries
  refine hiff.2 ?_
  rw [Series.NamesDirectory]
  decide

/-- Two dots lead out of the folder. -/
theorem not_isDirectlyInside_twoDots :
    resolveDestination (firstOf "..") oneVolume.filesystem {} newcomer =
        some (.ok ⟨library, ⟨".."⟩⟩) ∧
      Alone (firstOf "..") oneVolume.filesystem {} newcomer ∧
      (Destination.mk library ⟨".."⟩).relativePath.components = [.up] ∧
      ¬ ∃ name, (Destination.mk library ⟨".."⟩).IsDirectlyInside name := by
  have hup : (Destination.mk library ⟨".."⟩).relativePath.components = [.up] := by decide +kernel
  refine ⟨by decide +kernel, alone_firstOf _, hup, ?_⟩
  rintro ⟨name, hinside⟩
  cases hup.symm.trans hinside.step

end Placement

end MediaShelf
