import MediaShelf.Proofs.Placement.Answer
import MediaShelf.Proofs.Placement.Volumes
import Mathlib.Data.Nat.Find

/-!
# Room for a file

Room is judged by folders: a destination is taken only if its folder can take a file from the folder
that the file is in now (`room_of_resolveDestination`). Where a folder has another volume mounted
inside it, that says nothing about the directory the file goes to or comes from
(`not_room_of_mounted`); elsewhere it is all there is to say.

With more room the searches pass over fewer files. So a file that found a destination still finds one
when bytes become free, and a sibling that decides now was visited no later than the one that decided
before (`placement_mono`). The visits themselves do not change: their order has nothing to do with
room, and only the first offer among them moves to the front.
-/

namespace MediaShelf

namespace Placement

variable {snapshot : Snapshot} {filesystem : Filesystem} {options : PlacementOptions}
  {file : MediaFile} {placement : Placement}

/-! ## Room at a destination -/

/-- The folder of a destination has a usable directory, and so it has room. -/
theorem exists_usable_of_resolveDestination {destination : Destination}
    (h : resolveDestination snapshot filesystem options file = some (.ok destination)) :
    ∃ home location directory, IsAt snapshot file home location ∧
      Usable ⟨snapshot, filesystem, options, file, home, home.path.join location.directory⟩
        destination.folder directory := by
  cases decision_of_resolveDestination h with
  | searched hat hlinked hknown horder hsearch =>
      cases hsearch with
      | beside hsplit hpassed hoffers => exact ⟨_, _, _, hat, hoffers.2⟩
      | fallback halone hsplit hpassed htarget husable => exact ⟨_, _, _, hat, husable⟩

/-- If room is asked for, the folder of a destination has room for the file from its own folder. The
destination itself has room for it from the directory it is in, if both lie on the volumes of their
folders. -/
theorem room_of_resolveDestination {table : VolumeTable} {destination : Destination}
    (hchecks : options.skipSpaceChecks = false)
    (h : resolveDestination snapshot table.filesystem options file = some (.ok destination)) :
    ∃ home location, IsAt snapshot file home location ∧
      table.HasRoom destination.folder.path home.path file.size ∧
      (table.volume? destination.path = table.volume? destination.folder.path →
        table.volume? (home.path.join location.directory) = table.volume? home.path →
        table.HasRoom destination.path (home.path.join location.directory) file.size) := by
  obtain ⟨home, location, directory, hat, husable⟩ := exists_usable_of_resolveDestination h
  obtain ⟨-, hroom⟩ := (usable_iff rfl).1 husable
  have hasked : ¬ options.skipSpaceChecks = true := by simp [hchecks]
  obtain ⟨-, -, -, hfolder⟩ := hroom.resolve_left hasked
  exact ⟨home, location, hat, hfolder, fun hplace horigin => hfolder.congr hplace horigin⟩

/-- The share has just as many bytes free as the file is long. -/
theorem room_of_resolveDestination_share :
    ({} : PlacementOptions).skipSpaceChecks = false ∧
      resolveDestination sampleCatalog (shareTable 10).filesystem {}
          (sampleFile 10 ⟨"new.mkv"⟩) =
        some (.ok ⟨sampleCatalog.folders[2], ⟨"Mushishi 2"⟩⟩) ∧
      (shareTable 10).HasRoom (Destination.mk sampleCatalog.folders[2] ⟨"Mushishi 2"⟩).path
        (sampleCatalog.folders[0].path.join (Location.directory ⟨1, ⟨"new.mkv"⟩⟩)) 10 := by
  have hresolve : resolveDestination sampleCatalog (shareTable 10).filesystem {}
      (sampleFile 10 ⟨"new.mkv"⟩) = some (.ok ⟨sampleCatalog.folders[2], ⟨"Mushishi 2"⟩⟩) := by
    rw [resolveDestination_sampleFile (VolumeTable.settles (Or.inr rfl))]
    decide +kernel
  obtain ⟨home, location, hat, -, hroom⟩ := room_of_resolveDestination rfl hresolve
  have hhere := (isAt_iff.1 hat).symm.trans (isAt_iff.1 (isAt_sampleFile 10 ⟨"new.mkv"⟩))
  obtain ⟨rfl, rfl⟩ := Prod.mk.inj (Option.some.inj hhere)
  exact ⟨rfl, hresolve, hroom (by decide +kernel) (by decide +kernel)⟩

/-- A full volume mounted at the directory of the series. -/
def mountedTarget : VolumeTable where
  volumes := [(2, 0)]
  directories := [(⟨"/in"⟩, 1), (⟨"/tv"⟩, 3), (⟨"/tv/Mushishi"⟩, 2)]

/-- Another volume mounted inside a folder that shares a full one with the series. -/
def mountedSource : VolumeTable where
  volumes := [(1, 0)]
  directories := [(⟨"/in"⟩, 1), (⟨"/in/usb"⟩, 2), (⟨"/tv"⟩, 1), (⟨"/tv/Mushishi"⟩, 1)]

/-- What is mounted inside a folder does not count, neither where the file goes to nor where it comes
from. -/
theorem not_room_of_mounted :
    (resolveDestination sampleCatalog mountedTarget.filesystem {} (sampleFile 10 ⟨"new.mkv"⟩) =
        some (.ok ⟨sampleCatalog.folders[1], ⟨"Mushishi"⟩⟩) ∧
      IsAt sampleCatalog (sampleFile 10 ⟨"new.mkv"⟩) sampleCatalog.folders[0]
        ⟨1, ⟨"new.mkv"⟩⟩ ∧
      ¬ mountedTarget.HasRoom (Destination.mk sampleCatalog.folders[1] ⟨"Mushishi"⟩).path
        (sampleCatalog.folders[0].path.join (Location.directory ⟨1, ⟨"new.mkv"⟩⟩)) 10) ∧
    (resolveDestination sampleCatalog mountedSource.filesystem {}
          (sampleFile 10 ⟨"usb/new.mkv"⟩) =
        some (.ok ⟨sampleCatalog.folders[1], ⟨"Mushishi"⟩⟩) ∧
      IsAt sampleCatalog (sampleFile 10 ⟨"usb/new.mkv"⟩) sampleCatalog.folders[0]
        ⟨1, ⟨"usb/new.mkv"⟩⟩ ∧
      ¬ mountedSource.HasRoom (Destination.mk sampleCatalog.folders[1] ⟨"Mushishi"⟩).path
        (sampleCatalog.folders[0].path.join (Location.directory ⟨1, ⟨"usb/new.mkv"⟩⟩)) 10) := by
  refine ⟨⟨?_, isAt_sampleFile _ _, by decide +kernel⟩, ?_, isAt_sampleFile _ _,
    by decide +kernel⟩
  · rw [resolveDestination_sampleFile (VolumeTable.settles (Or.inr rfl))]
    decide +kernel
  · rw [resolveDestination_sampleFile (VolumeTable.settles (Or.inr rfl))]
    decide +kernel

/-! ## The first offer -/

/-- The file at a position is the first one that offers a destination. -/
structure FirstOffer (placement : Placement) (files : List MediaFile) (position : Nat)
    (destination : Destination) : Prop where
  offers : ∃ sibling, files[position]? = some sibling ∧ placement.Offers sibling destination
  passed : ∀ earlier < position, ∀ other, files[earlier]? = some other →
    ∀ place, ¬ placement.Offers other place

/-- Where a file offers a destination, it or an earlier one is the first to do so. -/
theorem exists_firstOffer {files : List MediaFile} {position : Nat} {sibling : MediaFile}
    {destination : Destination} (hvisit : files[position]? = some sibling)
    (hoffers : placement.Offers sibling destination) :
    ∃ first ≤ position, ∃ chosen, placement.FirstOffer files first chosen := by
  classical
  have hsome : ∃ index chosen other, files[index]? = some other ∧ placement.Offers other chosen :=
    ⟨position, destination, sibling, hvisit, hoffers⟩
  -- The least such position is the one; what stands before it offers nothing.
  obtain ⟨chosen, hchosen⟩ := Nat.find_spec hsome
  refine ⟨Nat.find hsome, Nat.find_min' hsome ⟨destination, sibling, hvisit, hoffers⟩, chosen,
    hchosen, ?_⟩
  intro earlier hearlier other hother place hplace
  exact Nat.find_min hsome hearlier ⟨place, other, hother, hplace⟩

theorem FirstOffer.search {files : List MediaFile} {position : Nat} {destination : Destination}
    (h : placement.FirstOffer files position destination) (series : Series) :
    placement.Search series files (.ok destination) := by
  obtain ⟨⟨sibling, hvisit, hoffers⟩, hpassed⟩ := h
  obtain ⟨hlt, rfl⟩ := List.getElem?_eq_some_iff.1 hvisit
  have hsplit : files = files.take position ++ files[position] :: files.drop (position + 1) := by
    rw [List.getElem_cons_drop, List.take_append_drop]
  refine .beside hsplit (fun other hother place => ?_) hoffers
  obtain ⟨earlier, hearlier, rfl⟩ := List.mem_take_iff_getElem.1 hother
  exact hpassed earlier (by omega) _ (List.getElem?_eq_getElem _) place

theorem firstOffer_of_split {files before after : List MediaFile} {sibling : MediaFile}
    {destination : Destination} (hsplit : files = before ++ sibling :: after)
    (hpassed : ∀ other ∈ before, ∀ place, ¬ placement.Offers other place)
    (hoffers : placement.Offers sibling destination) :
    placement.FirstOffer files before.length destination := by
  subst hsplit
  refine ⟨⟨sibling, by simp, hoffers⟩, fun earlier hearlier other hother => ?_⟩
  rw [List.getElem?_append_left hearlier] at hother
  exact hpassed other (List.mem_of_getElem? hother)

/-- The sibling at a position of the visits decides on a destination. -/
inductive ChosenAt (snapshot : Snapshot) (filesystem : Filesystem) (options : PlacementOptions)
    (file : MediaFile) (position : Nat) (destination : Destination) : Prop where
  | searched {folder : Folder} {location : Location} {episode : Episode} {series : Series}
      {visited : List Episode}
      (located : IsAt snapshot file folder location)
      (linked : (snapshot.episodesOfFile file.hash).head? = some episode)
      (known : snapshot.seriesOfShow? episode.showId = some series)
      (order : NewestFirst (snapshot.episodesOfSeries series.id) visited)
      (first : FirstOffer ⟨snapshot, filesystem, options, file, folder,
        folder.path.join location.directory⟩ (linkedFiles snapshot visited) position destination) :
      ChosenAt snapshot filesystem options file position destination

theorem ChosenAt.resolveDestination_eq {position : Nat} {destination : Destination}
    (hsettles : filesystem.Settles options)
    (h : ChosenAt snapshot filesystem options file position destination) :
    resolveDestination snapshot filesystem options file = some (.ok destination) := by
  obtain ⟨hat, hlinked, hknown, horder, hfirst⟩ := h
  exact (Decision.searched hat hlinked hknown horder (hfirst.search _)).resolveDestination_eq
    hsettles

/-- A file of a known series can go to a default destination, if no sibling decides. -/
inductive HasFallback (snapshot : Snapshot) (filesystem : Filesystem) (options : PlacementOptions)
    (file : MediaFile) : Prop where
  | searched {home folder : Folder} {location : Location} {episode : Episode} {series : Series}
      (located : IsAt snapshot file home location)
      (linked : (snapshot.episodesOfFile file.hash).head? = some episode)
      (known : snapshot.seriesOfShow? episode.showId = some series)
      (listed : folder ∈ snapshot.defaultDestinations)
      (usable : Usable ⟨snapshot, filesystem, options, file, home,
        home.path.join location.directory⟩ folder folder.path) :
      HasFallback snapshot filesystem options file

theorem exists_outcome_eq_ok {folder : Folder} (series : Series) (files : List MediaFile)
    (hlisted : folder ∈ placement.snapshot.defaultDestinations)
    (husable : placement.Usable folder folder.path) :
    ∃ destination, placement.outcome series files = .ok destination := by
  have hsearch := search_outcome placement series files
  generalize placement.outcome series files = result at hsearch ⊢
  cases hsearch with
  | beside => exact ⟨_, rfl⟩
  | fallback => exact ⟨_, rfl⟩
  | noDestination halone hfull =>
      obtain ⟨hmem, htarget⟩ := mem_defaultDestinations_iff.1 hlisted
      exact absurd husable (hfull folder hmem htarget)

theorem HasFallback.exists_destination (hsettles : filesystem.Settles options)
    (h : HasFallback snapshot filesystem options file) :
    ∃ destination,
      resolveDestination snapshot filesystem options file = some (.ok destination) := by
  obtain ⟨hat, hlinked, hknown, hlisted, husable⟩ := h
  rw [resolveDestination_eq_outcome hsettles hat hlinked hknown]
  simp only [Option.some.injEq]
  exact exists_outcome_eq_ok _ _ hlisted husable

/-- Every destination comes from a sibling at some position or from a fallback. -/
theorem exists_chosenAt_or_hasFallback {destination : Destination}
    (h : resolveDestination snapshot filesystem options file = some (.ok destination)) :
    (∃ position, ChosenAt snapshot filesystem options file position destination) ∨
      HasFallback snapshot filesystem options file := by
  cases decision_of_resolveDestination h with
  | searched hat hlinked hknown horder hsearch =>
      cases hsearch with
      | beside hsplit hpassed hoffers =>
          exact Or.inl ⟨_, .searched hat hlinked hknown horder
            (firstOffer_of_split hsplit hpassed hoffers)⟩
      | fallback halone hsplit hpassed htarget husable =>
          have hmem := hsplit ▸ List.mem_append_right _ List.mem_cons_self
          exact Or.inr (.searched hat hlinked hknown
            (mem_defaultDestinations_iff.2 ⟨hmem, htarget⟩) husable)

/-! ## More room -/

variable {a b : VolumeTable} {laxer : PlacementOptions} {size : UInt64}

theorem Offers.mono (htables : a.NoRoomier b) (hsize : size ≤ file.size)
    (hskip : options.skipSpaceChecks = true → laxer.skipSpaceChecks = true) {home : Folder}
    {here : Path} {sibling : MediaFile} {destination : Destination}
    (h : Offers ⟨snapshot, a.filesystem, options, file, home, here⟩ sibling destination) :
    Offers ⟨snapshot, b.filesystem, laxer, { file with size }, home, here⟩ sibling destination :=
  ⟨⟨h.1.other, h.1.excluded, h.1.first, h.1.elsewhere⟩, h.2.mono htables hsize hskip⟩

theorem ChosenAt.mono (htables : a.NoRoomier b) (hsize : size ≤ file.size)
    (hskip : options.skipSpaceChecks = true → laxer.skipSpaceChecks = true) {position : Nat}
    {destination : Destination}
    (h : ChosenAt snapshot a.filesystem options file position destination) :
    ∃ first ≤ position, ∃ chosen,
      ChosenAt snapshot b.filesystem laxer { file with size } first chosen := by
  obtain ⟨hat, hlinked, hknown, horder, hfirst⟩ := h
  -- The sibling still offers its destination, so only one before it can be chosen instead.
  obtain ⟨sibling, hvisit, hoffers⟩ := hfirst.offers
  obtain ⟨first, hle, chosen, hchosen⟩ :=
    exists_firstOffer hvisit (hoffers.mono htables hsize hskip)
  exact ⟨first, hle, chosen, .searched ⟨hat.first, hat.known⟩ hlinked hknown horder hchosen⟩

theorem HasFallback.mono (htables : a.NoRoomier b) (hsize : size ≤ file.size)
    (hskip : options.skipSpaceChecks = true → laxer.skipSpaceChecks = true)
    (h : HasFallback snapshot a.filesystem options file) :
    HasFallback snapshot b.filesystem laxer { file with size } := by
  obtain ⟨hat, hlinked, hknown, hlisted, husable⟩ := h
  exact .searched ⟨hat.first, hat.known⟩ hlinked hknown hlisted (husable.mono htables hsize hskip)

/-- With more bytes free, for a smaller file, or without a look at the room, a file that finds a
destination still finds one, and if a sibling decides on the first, then one that is visited no later
decides on the second. -/
theorem placement_mono (htables : a.NoRoomier b) (hsize : size ≤ file.size)
    (hskip : options.skipSpaceChecks = true → laxer.skipSpaceChecks = true)
    (hends : laxer.givesUp = true ∨ b.hanging = []) :
    (∀ destination,
      resolveDestination snapshot a.filesystem options file = some (.ok destination) →
      ∃ other, resolveDestination snapshot b.filesystem laxer { file with size } =
        some (.ok other)) ∧
    ∀ position destination,
      ChosenAt snapshot a.filesystem options file position destination →
      ∃ first ≤ position, ∃ other,
        ChosenAt snapshot b.filesystem laxer { file with size } first other ∧
        resolveDestination snapshot b.filesystem laxer { file with size } = some (.ok other) := by
  have hsettles : b.filesystem.Settles laxer := VolumeTable.settles hends
  constructor
  · intro destination h
    rcases exists_chosenAt_or_hasFallback h with ⟨position, hchosen⟩ | hfallback
    · obtain ⟨_, -, other, hother⟩ := hchosen.mono htables hsize hskip
      exact ⟨other, hother.resolveDestination_eq hsettles⟩
    · exact (hfallback.mono htables hsize hskip).exists_destination hsettles
  · intro position destination hchosen
    obtain ⟨first, hle, other, hother⟩ := hchosen.mono htables hsize hskip
    exact ⟨first, hle, other, hother, hother.resolveDestination_eq hsettles⟩

/-- With bytes free on the share, the newest sibling is not passed over any more. -/
theorem placement_mono_share :
    (shareTable 5).NoRoomier (shareTable 20) ∧ 8 ≤ (sampleFile 10 ⟨"new.mkv"⟩).size ∧
      ChosenAt sampleCatalog (shareTable 5).filesystem {} (sampleFile 10 ⟨"new.mkv"⟩) 1
        ⟨sampleCatalog.folders[1], ⟨"Mushishi"⟩⟩ ∧
      (∃ first ≤ 1, ∃ other,
        ChosenAt sampleCatalog (shareTable 20).filesystem {} (sampleFile 8 ⟨"new.mkv"⟩) first
            other ∧
          resolveDestination sampleCatalog (shareTable 20).filesystem {}
              (sampleFile 8 ⟨"new.mkv"⟩) = some (.ok other)) ∧
      resolveDestination sampleCatalog (shareTable 20).filesystem {}
          (sampleFile 8 ⟨"new.mkv"⟩) =
        some (.ok ⟨sampleCatalog.folders[2], ⟨"Mushishi 2"⟩⟩) := by
  have htables : (shareTable 5).NoRoomier (shareTable 20) := by
    refine ⟨fun _ => rfl, fun _ => rfl, fun volume => ?_⟩
    by_cases hshare : volume = 3
    · subst hshare
      decide
    · simp [VolumeTable.freeOn, shareTable, List.lookup_cons, beq_eq_false_iff_ne.2 hshare]
  have hsize : 8 ≤ (sampleFile 10 ⟨"new.mkv"⟩).size := by decide
  have hfirst : FirstOffer (sampleSearch (shareTable 5).filesystem {} 10 ⟨"new.mkv"⟩)
      [sampleCatalog.files[2], sampleCatalog.files[1], sampleCatalog.files[0]] 1
      ⟨sampleCatalog.folders[1], ⟨"Mushishi"⟩⟩ := by
    refine ⟨⟨sampleCatalog.files[1], rfl, offer?_eq_some_iff.1 (by decide +kernel)⟩, ?_⟩
    intro earlier hearlier other hother
    obtain rfl : earlier = 0 := by omega
    obtain rfl : sampleCatalog.files[2] = other := Option.some.inj hother
    exact offer?_eq_none_iff.1 (by decide +kernel)
  have hchosen : ChosenAt sampleCatalog (shareTable 5).filesystem {}
      (sampleFile 10 ⟨"new.mkv"⟩) 1 ⟨sampleCatalog.folders[1], ⟨"Mushishi"⟩⟩ := by
    rw [← linkedFiles_sampleCatalog, ← newestFirst_sampleCatalog] at hfirst
    exact .searched (isAt_sampleFile _ _) (linked_sampleFile _ _) series_sampleCatalog
      (newestFirst_spec _) hfirst
  refine ⟨htables, hsize, hchosen, ?_, ?_⟩
  · exact (placement_mono htables hsize id (Or.inr rfl)).2 1 _ hchosen
  · rw [resolveDestination_sampleFile (VolumeTable.settles (Or.inr rfl))]
    decide +kernel

end Placement

end MediaShelf
