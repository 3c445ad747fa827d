import MediaShelf.Proofs.Catalog.Order
import MediaShelf.Storage.VolumeTable

/-!
# What placement decides

`Decision` is the rule book of placement: which result belongs to a file, in terms of the catalog
and of the filesystem's replies alone, without loops, early exits or an order of questions. The main
theorem, `resolveDestination_decides`, says that placement comes to a result whenever its queries
settle, and that this result is the only one the rules allow.

The proof takes the loops apart from the inside. Whether a directory is usable is a plain fact about
replies (`isUsable_eq_some_true_iff`). So the two loops over siblings are one search through the list
of linked files (`visitEpisodes_eq`), and the loop over default destinations is another one
(`firstUsable_eq`), which is as good as one through all folders with a look at their flags
(`find?_defaultDestinations_eq_some_iff`). That the fallback is looked for first has no effect,
because nothing in it can fail.
-/

namespace MediaShelf

/-! ## Queries that settle -/

/-- A reply that comes to something: the query answers, fails, or is given up. -/
def PlacementOptions.Settles {α : Type} (options : PlacementOptions) (reply : Reply α) : Prop :=
  reply = .silent → options.givesUp = true

/-- A filesystem on which every query settles. -/
structure Filesystem.Settles (filesystem : Filesystem) (options : PlacementOptions) : Prop where
  isDir : ∀ path, options.Settles (filesystem.isDir path)
  freeBytes : ∀ path, options.Settles (filesystem.freeBytes path)
  sameVolume : ∀ a b, options.Settles (filesystem.sameVolume a b)

theorem PlacementOptions.await_ne_none {α : Type} {options : PlacementOptions} {reply : Reply α}
    (h : options.Settles reply) (path : Path) : options.await path reply ≠ none := by
  cases reply with
  | answers a => simp [await]
  | fails p => simp [await]
  | silent => simp [await, h rfl]

theorem PlacementOptions.await_eq_ok_iff {α : Type} {options : PlacementOptions} {reply : Reply α}
    {path : Path} {a : α} : options.await path reply = some (.ok a) ↔ reply = .answers a := by
  cases reply with
  | answers b => simp [await]
  | fails p => simp [await]
  | silent => simp [await]

namespace Placement

/-! ## The rules -/

/-- A location of a file and its folder, where no earlier location is in a known folder. -/
structure IsAt (snapshot : Snapshot) (file : MediaFile) (folder : Folder) (location : Location) :
    Prop where
  first : ∃ before after, file.locations = before ++ location :: after ∧
    ∀ other ∈ before, snapshot.folder? other.folderId = none
  known : snapshot.folder? location.folderId = some folder

/-- An episode that references link to different shows. -/
def IsCrossover (snapshot : Snapshot) (episode : Episode) : Prop :=
  ∃ a ∈ snapshot.crossReferences, ∃ b ∈ snapshot.crossReferences,
    a.episodeId = episode.id ∧ b.episodeId = episode.id ∧ a.showId ≠ b.showId

instance (snapshot : Snapshot) (episode : Episode) : Decidable (IsCrossover snapshot episode) :=
  inferInstanceAs (Decidable (∃ a ∈ snapshot.crossReferences, ∃ b ∈ snapshot.crossReferences,
    a.episodeId = episode.id ∧ b.episodeId = episode.id ∧ a.showId ≠ b.showId))

/-- The files of the episodes that are no crossovers, in the order of the visits. -/
def linkedFiles (snapshot : Snapshot) (visited : List Episode) : List MediaFile :=
  (visited.filter fun episode => ¬ IsCrossover snapshot episode).flatMap fun episode =>
    snapshot.filesOfEpisode episode.id

/-- A directory that exists, in a folder with room for the file: room is not asked for, or the
folder shares the volume of the file, or it does not and has enough free bytes. -/
structure Usable (placement : Placement) (folder : Folder) (directory : Path) : Prop where
  isDir : placement.filesystem.isDir directory = .answers true
  room : placement.options.skipSpaceChecks = true ∨
    placement.filesystem.sameVolume placement.currentFolder.path folder.path = .answers true ∨
    (placement.filesystem.sameVolume placement.currentFolder.path folder.path = .answers false ∧
      ∃ free, placement.filesystem.freeBytes folder.path = .answers free ∧
        placement.file.size ≤ free)

/-- A linked file, other than the one to be placed, suggests the directory of its first copy: all of
its copies are in known folders that are excluded from placement, and the directory is another. -/
structure Suggests (placement : Placement) (sibling : MediaFile) (destination : Destination) :
    Prop where
  other : Text.sameIgnoringCase sibling.hash placement.file.hash = false
  excluded : ∀ location ∈ sibling.locations, ∃ folder,
    placement.snapshot.folder? location.folderId = some folder ∧
      folder.isExcludedFromPlacement = true
  first : ∃ location, sibling.locations.head? = some location ∧
    placement.snapshot.folder? location.folderId = some destination.folder ∧
    destination.relativePath = location.directory
  elsewhere : destination.path.components ≠ placement.currentDirectory.components

/-- A linked file suggests a destination that is usable. -/
def Offers (placement : Placement) (sibling : MediaFile) (destination : Destination) : Prop :=
  placement.Suggests sibling destination ∧
    placement.Usable destination.folder destination.path

/-- A folder into which files are dropped, and which is no source of them. -/
structure IsDropTarget (folder : Folder) : Prop where
  destination : folder.isDropDestination = true
  noSource : folder.isDropSource = false

/-- The results that the rules allow once the linked files of the series are known: the first offer
decides, and without one the first drop target of the catalog that is usable does. -/
inductive Search (placement : Placement) (series : Series) (files : List MediaFile) :
    Except PlacementError Destination → Prop where
  | beside {before after : List MediaFile} {sibling : MediaFile} {destination : Destination}
      (split : files = before ++ sibling :: after)
      (passed : ∀ other ∈ before, ∀ place, ¬ placement.Offers other place)
      (offers : placement.Offers sibling destination) :
      Search placement series files (.ok destination)
  | fallback {before after : List Folder} {folder : Folder}
      (alone : ∀ other ∈ files, ∀ place, ¬ placement.Offers other place)
      (split : placement.snapshot.folders = before ++ folder :: after)
      (passed : ∀ other ∈ before, IsDropTarget other → ¬ placement.Usable other other.path)
      (target : IsDropTarget folder)
      (usable : placement.Usable folder folder.path) :
      Search placement series files (.ok ⟨folder, ⟨safeName series.name⟩⟩)
  | noDestination
      (alone : ∀ other ∈ files, ∀ place, ¬ placement.Offers other place)
      (full : ∀ other ∈ placement.snapshot.folders,
        IsDropTarget other → ¬ placement.Usable other other.path) :
      Search placement series files (.error .noDestination)

/-- The results that the rules allow for a file. The files of the series are searched, the newest
episodes first, unless something is missing before. -/
inductive Decision (snapshot : Snapshot) (filesystem : Filesystem) (options : PlacementOptions)
    (file : MediaFile) : Except PlacementError Destination → Prop where
  | noLocation
      (unknown : ∀ location ∈ file.locations, snapshot.folder? location.folderId = none) :
      Decision snapshot filesystem options file (.error (.noLocation file.id))
  | noCrossReferences {folder : Folder} {location : Location}
      (located : IsAt snapshot file folder location)
      (unlinked : snapshot.episodesOfFile file.hash = []) :
      Decision snapshot filesystem options file (.error .noCrossReferences)
  | seriesNotFound {folder : Folder} {location : Location} {episode : Episode}
      (located : IsAt snapshot file folder location)
      (linked : (snapshot.episodesOfFile file.hash).head? = some episode)
      (unknown : snapshot.seriesOfShow? episode.showId = none) :
      Decision snapshot filesystem options file (.error .seriesNotFound)
  | searched {folder : Folder} {location : Location} {episode : Episode} {series : Series}
      {visited : List Episode} {result : Except PlacementError Destination}
      (located : IsAt snapshot file folder location)
      (linked : (snapshot.episodesOfFile file.hash).head? = some episode)
      (known : snapshot.seriesOfShow? episode.showId = some series)
      (order : NewestFirst (snapshot.episodesOfSeries series.id) visited)
      (search : Search ⟨snapshot, filesystem, options, file, folder,
        folder.path.join location.directory⟩ series (linkedFiles snapshot visited) result) :
      Decision snapshot filesystem options file result

/-! ## Usable directories -/

variable {placement : Placement}

theorem fits_eq_ok_true_iff {folder : Folder} :
    placement.fits folder = some (.ok true) ↔
      placement.options.skipSpaceChecks = true ∨
      placement.filesystem.sameVolume placement.currentFolder.path folder.path = .answers true ∨
      (placement.filesystem.sameVolume placement.currentFolder.path folder.path
          = .answers false ∧
        ∃ free, placement.filesystem.freeBytes folder.path = .answers free ∧
          placement.file.size ≤ free) := by
  obtain ⟨snapshot, filesystem, options, file, current, here⟩ := placement
  simp only [fits]
  by_cases hskip : options.skipSpaceChecks = true
  · simp [hskip]
  · rw [if_neg hskip, or_iff_right hskip]
    cases hsame : filesystem.sameVolume current.path folder.path with
    | fails p => simp [PlacementOptions.await]
    | silent => cases hgives : options.givesUp <;> simp [PlacementOptions.await, hgives]
    | answers same =>
        cases same with
        | true => simp [PlacementOptions.await]
        | false =>
            cases hfree : filesystem.freeBytes folder.path with
            | fails p => simp [PlacementOptions.await, Except.map]
            | silent =>
                cases hgives : options.givesUp <;>
                  simp [PlacementOptions.await, hgives, Except.map]
            | answers free => simp [PlacementOptions.await, Except.map]

theorem isUsable_eq_some_true_iff {folder : Folder} {directory : Path} :
    placement.isUsable folder directory = some true ↔ placement.Usable folder directory := by
  have hroom := @fits_eq_ok_true_iff placement folder
  constructor
  · intro h
    unfold isUsable at h
    split at h
    · next hdir =>
        split at h
        · next room hfits =>
            obtain rfl : room = true := Option.some.inj h
            exact ⟨PlacementOptions.await_eq_ok_iff.1 hdir, hroom.1 hfits⟩
        · cases h
        · cases h
    · cases h
    · cases h
    · cases h
  · rintro ⟨hdir, room⟩
    rw [isUsable, PlacementOptions.await_eq_ok_iff.2 hdir]
    simp only [hroom.2 room]

theorem fits_ne_none (h : placement.filesystem.Settles placement.options) (folder : Folder) :
    placement.fits folder ≠ none := by
  obtain ⟨snapshot, filesystem, options, file, current, here⟩ := placement
  simp only [fits]
  split
  · simp
  · split
    · simp
    · simp [PlacementOptions.await_ne_none (h.freeBytes folder.path) folder.path]
    · simp
    · next hnone =>
        exact absurd hnone (PlacementOptions.await_ne_none (h.sameVolume _ _) folder.path)

theorem isUsable_ne_none (h : placement.filesystem.Settles placement.options) (folder : Folder)
    (directory : Path) : placement.isUsable folder directory ≠ none := by
  unfold isUsable
  split
  · split
    · simp
    · simp
    · next hnone => exact absurd hnone (fits_ne_none h folder)
  · simp
  · simp
  · next hnone =>
      exact absurd hnone (PlacementOptions.await_ne_none (h.isDir directory) directory)

/-! ## The searches -/

/-- The loop over default destinations is a search through a list. -/
theorem firstUsable_eq (h : placement.filesystem.Settles placement.options)
    (folders : List Folder) :
    placement.firstUsable folders =
      some (folders.find? fun folder => placement.isUsable folder folder.path == some true) := by
  induction folders with
  | nil => rfl
  | cons folder rest ih =>
      rw [firstUsable, List.find?_cons]
      split
      · next husable => rw [husable]; rfl
      · next husable => rw [husable]; exact ih
      · next hnone => exact absurd hnone (isUsable_ne_none h folder folder.path)

/-- The destination that a linked file offers, if it offers any. -/
def offer? (placement : Placement) (sibling : MediaFile) : Option Destination :=
  (placement.consider? sibling).filter fun destination =>
    placement.isUsable destination.folder destination.path == some true

theorem visitFiles_eq (h : placement.filesystem.Settles placement.options)
    (files : List MediaFile) :
    placement.visitFiles files = some (files.findSome? placement.offer?) := by
  induction files with
  | nil => rfl
  | cons sibling rest ih =>
      rw [visitFiles, List.findSome?_cons, offer?]
      split
      · next destination hconsider =>
          rw [hconsider, Option.filter_some]
          split
          · next husable => rw [husable]; rfl
          · next husable => rw [husable]; exact ih
          · next hnone => exact absurd hnone (isUsable_ne_none h _ _)
      · next hconsider => rw [hconsider]; exact ih

theorem isCrossover_iff {snapshot : Snapshot} {episode : Episode} :
    IsCrossover snapshot episode ↔ (snapshot.showsOfEpisode episode.id).length > 1 := by
  rw [gt_iff_lt, Snapshot.showsOfEpisode, one_lt_length_dropRepeats]
  simp only [List.mem_mergeSort, List.mem_map, Snapshot.referencesTo, List.mem_filter, beq_iff_eq,
    id_eq]
  constructor
  · rintro ⟨a, ha, b, hb, hae, hbe, hne⟩
    exact ⟨a.showId, ⟨a, ⟨ha, hae⟩, rfl⟩, b.showId, ⟨b, ⟨hb, hbe⟩, rfl⟩, hne⟩
  · rintro ⟨_, ⟨a, ⟨ha, hae⟩, rfl⟩, _, ⟨b, ⟨hb, hbe⟩, rfl⟩, hne⟩
    exact ⟨a, ha, b, hb, hae, hbe, hne⟩

/-- The loops over episodes and their files are one search through the linked files. -/
theorem visitEpisodes_eq (h : placement.filesystem.Settles placement.options)
    (visited : List Episode) :
    placement.visitEpisodes visited =
      some ((linkedFiles placement.snapshot visited).findSome? placement.offer?) := by
  induction visited with
  | nil => rfl
  | cons episode rest ih =>
      rw [visitEpisodes, linkedFiles]
      split
      · next hshows =>
          rw [List.filter_cons_of_neg (by simpa using isCrossover_iff.2 hshows)]
          exact ih
      · next hshows =>
          rw [List.filter_cons_of_pos (by simpa using mt isCrossover_iff.1 hshows),
            List.flatMap_cons, List.findSome?_append, visitFiles_eq h]
          cases (placement.snapshot.filesOfEpisode episode.id).findSome? placement.offer? with
          | some destination => rfl
          | none => exact ih

/-! ## What a linked file suggests -/

theorem isKeptByHand_iff {location : Location} :
    placement.isKeptByHand location = true ↔ ∃ folder,
      placement.snapshot.folder? location.folderId = some folder ∧
        folder.isExcludedFromPlacement = true := by
  rw [isKeptByHand, Option.any_eq_true]

theorem suggestion?_eq_some_iff {sibling : MediaFile} {destination : Destination} :
    placement.suggestion? sibling = some destination ↔
      (∀ location ∈ sibling.locations, ∃ folder,
        placement.snapshot.folder? location.folderId = some folder ∧
          folder.isExcludedFromPlacement = true) ∧
      ∃ location, sibling.locations.head? = some location ∧
        placement.snapshot.folder? location.folderId = some destination.folder ∧
        destination.relativePath = location.directory := by
  obtain ⟨folder, relativePath⟩ := destination
  simp only [suggestion?, List.all_eq_true, isKeptByHand_iff]
  split
  · next hkept =>
      rw [and_iff_right hkept]
      cases sibling.locations with
      | nil => simp
      | cons location rest =>
          simp only [List.head?_cons, Option.map_eq_some_iff, Destination.mk.injEq,
            Option.some.injEq]
          constructor
          · rintro ⟨_, hfolder, rfl, rfl⟩
            exact ⟨location, rfl, hfolder, rfl⟩
          · rintro ⟨_, rfl, hfolder, rfl⟩
            exact ⟨folder, hfolder, rfl, rfl⟩
  · next hkept => exact iff_of_false (by simp) fun h => hkept h.1

theorem consider?_eq_some_iff {sibling : MediaFile} {destination : Destination} :
    placement.consider? sibling = some destination ↔
      placement.Suggests sibling destination := by
  rw [consider?]
  split
  · next hsame =>
      refine iff_of_false (by simp) fun h => ?_
      rw [h.other] at hsame
      cases hsame
  · next hother =>
      rw [Option.filter_eq_some_iff, suggestion?_eq_some_iff]
      simp only [Bool.not_eq_true', Path.sameAs, beq_eq_false_iff_ne]
      constructor
      · rintro ⟨⟨hexcluded, hfirst⟩, helsewhere⟩
        exact ⟨by simpa using hother, hexcluded, hfirst, helsewhere⟩
      · intro h
        exact ⟨⟨h.excluded, h.first⟩, h.elsewhere⟩

theorem offer?_eq_some_iff {sibling : MediaFile} {destination : Destination} :
    placement.offer? sibling = some destination ↔ placement.Offers sibling destination := by
  rw [offer?, Option.filter_eq_some_iff, consider?_eq_some_iff, beq_iff_eq,
    isUsable_eq_some_true_iff]
  rfl

theorem offer?_eq_none_iff {sibling : MediaFile} :
    placement.offer? sibling = none ↔ ∀ place, ¬ placement.Offers sibling place := by
  rw [Option.eq_none_iff_forall_ne_some]
  simp only [ne_eq, offer?_eq_some_iff]

/-! ## The place of the file -/

theorem locate?_eq_findSome? (snapshot : Snapshot) (locations : List Location) :
    locate? snapshot locations = locations.findSome? fun location =>
      (snapshot.folder? location.folderId).map fun folder => (folder, location) := by
  induction locations with
  | nil => rfl
  | cons location rest ih =>
      rw [locate?, List.findSome?_cons]
      cases snapshot.folder? location.folderId with
      | some folder => rfl
      | none => exact ih

theorem locate?_eq_none_iff {snapshot : Snapshot} {locations : List Location} :
    locate? snapshot locations = none ↔
      ∀ location ∈ locations, snapshot.folder? location.folderId = none := by
  rw [locate?_eq_findSome?, List.findSome?_eq_none_iff]
  simp only [Option.map_eq_none_iff]

theorem isAt_iff {snapshot : Snapshot} {file : MediaFile} {folder : Folder}
    {location : Location} :
    IsAt snapshot file folder location ↔
      locate? snapshot file.locations = some (folder, location) := by
  rw [locate?_eq_findSome?, List.findSome?_eq_some_iff]
  simp only [Option.map_eq_some_iff, Option.map_eq_none_iff, Prod.mk.injEq]
  constructor
  · rintro ⟨⟨before, after, hsplit, hbefore⟩, hknown⟩
    exact ⟨before, location, after, hsplit, ⟨folder, hknown, rfl, rfl⟩, hbefore⟩
  · rintro ⟨before, _, after, hsplit, ⟨_, hknown, rfl, rfl⟩, hbefore⟩
    exact ⟨⟨before, after, hsplit, hbefore⟩, hknown⟩

/-! ## Default destinations -/

theorem isDefaultDestination_iff {folder : Folder} :
    folder.isDefaultDestination = true ↔ IsDropTarget folder := by
  rw [Folder.isDefaultDestination, Bool.and_eq_true, Bool.not_eq_true']
  exact ⟨fun ⟨hdestination, hsource⟩ => ⟨hdestination, hsource⟩,
    fun ⟨hdestination, hsource⟩ => ⟨hdestination, hsource⟩⟩

theorem mem_defaultDestinations_iff {snapshot : Snapshot} {folder : Folder} :
    folder ∈ snapshot.defaultDestinations ↔ folder ∈ snapshot.folders ∧ IsDropTarget folder := by
  rw [Snapshot.defaultDestinations, List.mem_filter, isDefaultDestination_iff]

theorem find?_defaultDestinations_eq_some_iff {folder : Folder} :
    (placement.snapshot.defaultDestinations.find? fun folder =>
        placement.isUsable folder folder.path == some true) = some folder ↔
      (IsDropTarget folder ∧ placement.Usable folder folder.path) ∧
        ∃ before after, placement.snapshot.folders = before ++ folder :: after ∧
          ∀ other ∈ before, IsDropTarget other → ¬ placement.Usable other other.path := by
  rw [Snapshot.defaultDestinations, List.find?_filter, List.find?_eq_some_iff_append]
  simp only [decide_eq_true_eq, Bool.not_eq_true', decide_eq_false_iff_not, not_and,
    isDefaultDestination_iff, beq_iff_eq, isUsable_eq_some_true_iff]

theorem find?_defaultDestinations_eq_none_iff :
    (placement.snapshot.defaultDestinations.find? fun folder =>
        placement.isUsable folder folder.path == some true) = none ↔
      ∀ other ∈ placement.snapshot.folders,
        IsDropTarget other → ¬ placement.Usable other other.path := by
  rw [Snapshot.defaultDestinations, List.find?_filter, List.find?_eq_none]
  simp only [decide_eq_true_eq, not_and, isDefaultDestination_iff, beq_iff_eq,
    isUsable_eq_some_true_iff]

/-! ## The result -/

/-- The result of the two searches, the one through the linked files first. -/
def outcome (placement : Placement) (series : Series) (files : List MediaFile) :
    Except PlacementError Destination :=
  match (files.findSome? placement.offer?).or
      ((placement.snapshot.defaultDestinations.find? fun folder =>
        placement.isUsable folder folder.path == some true).map (seriesDirectory series)) with
  | some destination => .ok destination
  | none => .error .noDestination

theorem search_outcome (placement : Placement) (series : Series) (files : List MediaFile) :
    placement.Search series files (placement.outcome series files) := by
  rw [outcome]
  cases hoffer : files.findSome? placement.offer? with
  | some destination =>
      obtain ⟨before, sibling, after, hsplit, hoffers, hpassed⟩ :=
        List.findSome?_eq_some_iff.1 hoffer
      exact .beside hsplit (fun other hother => offer?_eq_none_iff.1 (hpassed other hother))
        (offer?_eq_some_iff.1 hoffers)
  | none =>
      have halone : ∀ other ∈ files, ∀ place, ¬ placement.Offers other place :=
        fun other hother =>
          offer?_eq_none_iff.1 (List.findSome?_eq_none_iff.1 hoffer other hother)
      rw [Option.none_or]
      cases hfind : placement.snapshot.defaultDestinations.find? fun folder =>
          placement.isUsable folder folder.path == some true with
      | some folder =>
          obtain ⟨⟨htarget, husable⟩, before, after, hsplit, hpassed⟩ :=
            find?_defaultDestinations_eq_some_iff.1 hfind
          exact .fallback halone hsplit hpassed htarget husable
      | none => exact .noDestination halone (find?_defaultDestinations_eq_none_iff.1 hfind)

theorem Search.eq_outcome {series : Series} {files : List MediaFile}
    {result : Except PlacementError Destination} (h : placement.Search series files result) :
    result = placement.outcome series files := by
  have hnone : (∀ other ∈ files, ∀ place, ¬ placement.Offers other place) →
      files.findSome? placement.offer? = none := fun halone =>
    List.findSome?_eq_none_iff.2 fun other hother => offer?_eq_none_iff.2 (halone other hother)
  rw [outcome]
  cases h with
  | @beside before after sibling destination hsplit hpassed hoffers =>
      have hoffer : files.findSome? placement.offer? = some destination :=
        List.findSome?_eq_some_iff.2 ⟨before, sibling, after, hsplit,
          offer?_eq_some_iff.2 hoffers,
          fun other hother => offer?_eq_none_iff.2 (hpassed other hother)⟩
      rw [hoffer]
      rfl
  | fallback halone hsplit hpassed htarget husable =>
      rw [hnone halone, find?_defaultDestinations_eq_some_iff.2
        ⟨⟨htarget, husable⟩, _, _, hsplit, hpassed⟩]
      rfl
  | noDestination halone hfull =>
      rw [hnone halone, find?_defaultDestinations_eq_none_iff.2 hfull]
      rfl

/-- With the searches in the place of the loops, the order of the errors is all that is left. -/
theorem destination_eq (h : placement.filesystem.Settles placement.options)
    {episode : Episode} {series : Series}
    (hlinked : (placement.snapshot.episodesOfFile placement.file.hash).head? = some episode)
    (hseries : placement.snapshot.seriesOfShow? episode.showId = some series) :
    placement.destination (placement.snapshot.defaultDestinations.find? fun folder =>
        placement.isUsable folder folder.path == some true) =
      some (placement.outcome series (linkedFiles placement.snapshot
        (newestFirst (placement.snapshot.episodesOfSeries series.id)))) := by
  obtain ⟨rest, hepisodes⟩ := List.head?_eq_some_iff.1 hlinked
  rw [destination, hepisodes]
  simp only [hseries]
  rw [visitEpisodes_eq h]
  rfl

variable {snapshot : Snapshot} {filesystem : Filesystem} {options : PlacementOptions}
  {file : MediaFile}

/-- The search for a file that is at a location of a folder. -/
theorem resolveDestination_of_isAt (h : filesystem.Settles options) {folder : Folder}
    {location : Location} (hat : IsAt snapshot file folder location) :
    resolveDestination snapshot filesystem options file =
      let placement : Placement :=
        ⟨snapshot, filesystem, options, file, folder, folder.path.join location.directory⟩
      placement.destination (snapshot.defaultDestinations.find? fun folder =>
        placement.isUsable folder folder.path == some true) := by
  rw [resolveDestination, isAt_iff.1 hat]
  simp only []
  rw [firstUsable_eq h]

/-- The result for a file whose series is known. -/
theorem resolveDestination_eq_outcome (h : filesystem.Settles options) {folder : Folder}
    {location : Location} {episode : Episode} {series : Series}
    (hat : IsAt snapshot file folder location)
    (hlinked : (snapshot.episodesOfFile file.hash).head? = some episode)
    (hseries : snapshot.seriesOfShow? episode.showId = some series) :
    resolveDestination snapshot filesystem options file =
      let placement : Placement :=
        ⟨snapshot, filesystem, options, file, folder, folder.path.join location.directory⟩
      some (placement.outcome series (linkedFiles snapshot
        (newestFirst (snapshot.episodesOfSeries series.id)))) := by
  rw [resolveDestination_of_isAt h hat]
  exact destination_eq h hlinked hseries

theorem Decision.resolveDestination_eq (h : filesystem.Settles options)
    {result : Except PlacementError Destination}
    (hdecision : Decision snapshot filesystem options file result) :
    resolveDestination snapshot filesystem options file = some result := by
  cases hdecision with
  | noLocation hunknown => rw [resolveDestination, locate?_eq_none_iff.2 hunknown]
  | noCrossReferences hat hunlinked =>
      rw [resolveDestination_of_isAt h hat]
      simp only [destination, hunlinked]
  | seriesNotFound hat hlinked hunknown =>
      obtain ⟨rest, hepisodes⟩ := List.head?_eq_some_iff.1 hlinked
      rw [resolveDestination_of_isAt h hat]
      simp only [destination, hepisodes, hunknown]
  | searched hat hlinked hseries horder hsearch =>
      rw [resolveDestination_eq_outcome h hat hlinked hseries, hsearch.eq_outcome,
        horder.eq_newestFirst]

theorem exists_decision (h : filesystem.Settles options) :
    ∃ result, resolveDestination snapshot filesystem options file = some result ∧
      Decision snapshot filesystem options file result := by
  suffices hdecision : ∃ result, Decision snapshot filesystem options file result by
    obtain ⟨result, hresult⟩ := hdecision
    exact ⟨result, hresult.resolveDestination_eq h, hresult⟩
  cases hlocate : locate? snapshot file.locations with
  | none => exact ⟨_, .noLocation (locate?_eq_none_iff.1 hlocate)⟩
  | some place =>
      obtain ⟨folder, location⟩ := place
      have hat := isAt_iff.2 hlocate
      cases hepisodes : snapshot.episodesOfFile file.hash with
      | nil => exact ⟨_, .noCrossReferences hat hepisodes⟩
      | cons episode rest =>
          have hlinked : (snapshot.episodesOfFile file.hash).head? = some episode := by
            rw [hepisodes, List.head?_cons]
          cases hseries : snapshot.seriesOfShow? episode.showId with
          | none => exact ⟨_, .seriesNotFound hat hlinked hseries⟩
          | some series =>
              exact ⟨_, .searched hat hlinked hseries (newestFirst_spec _)
                (search_outcome _ series _)⟩

/-- A show whose newest files lie on a share that is gone. -/
def sampleCatalog : Snapshot where
  series := [⟨1, 1, "Mushishi"⟩]
  episodes := [
    { id := 10, showId := 1, number := 1, airDate := Date.ofParts? 2005 10 23 },
    { id := 11, showId := 1, number := 2, airDate := Date.ofParts? 2014 4 5 },
    { id := 12, showId := 1, number := 3 }]
  files := [
    { id := 1, fileName := "new.mkv", hash := "aa", size := 10,
      locations := [⟨1, ⟨"new.mkv"⟩⟩] },
    { id := 2, fileName := "01.mkv", hash := "bb", size := 10,
      locations := [⟨2, ⟨"Mushishi/01.mkv"⟩⟩] },
    { id := 3, fileName := "02.mkv", hash := "cc", size := 10,
      locations := [⟨3, ⟨"Mushishi 2/02.mkv"⟩⟩] }]
  crossReferences := [⟨"AA", 12, 1⟩, ⟨"BB", 10, 1⟩, ⟨"cc", 11, 1⟩]
  folders := [
    { id := 1, path := ⟨"/in"⟩, isDropSource := true },
    { id := 2, path := ⟨"/tv"⟩, isExcludedFromPlacement := true },
    { id := 3, path := ⟨"/gone"⟩, isExcludedFromPlacement := true }]

/-- The volumes of the sample where the share is in place, with so many bytes free on it. -/
def shareTable (free : UInt64) : VolumeTable where
  volumes := [(2, 100), (3, free)]
  directories := [(⟨"/in"⟩, 1), (⟨"/tv"⟩, 2), (⟨"/tv/Mushishi"⟩, 2), (⟨"/gone"⟩, 3),
    (⟨"/gone/Mushishi 2"⟩, 3)]

/-- The first file of the sample, with some size and at some place in its folder. -/
def sampleFile (size : UInt64) (path : Path) : MediaFile :=
  { sampleCatalog.files[0] with size, locations := [⟨1, path⟩] }

/-- The search for that file. -/
def sampleSearch (filesystem : Filesystem) (options : PlacementOptions) (size : UInt64)
    (path : Path) : Placement where
  snapshot := sampleCatalog
  filesystem := filesystem
  options := options
  file := sampleFile size path
  currentFolder := sampleCatalog.folders[0]
  currentDirectory := sampleCatalog.folders[0].path.join (Location.directory ⟨1, path⟩)

theorem isAt_sampleFile (size : UInt64) (path : Path) :
    IsAt sampleCatalog (sampleFile size path) sampleCatalog.folders[0] ⟨1, path⟩ where
  first := ⟨[], [], rfl, by simp⟩
  known := by
    have hfolder : sampleCatalog.folder? 1 = some sampleCatalog.folders[0] := by decide +kernel
    exact hfolder

theorem linked_sampleFile (size : UInt64) (path : Path) :
    (sampleCatalog.episodesOfFile (sampleFile size path).hash).head? =
      some sampleCatalog.episodes[2] := by
  have hlinked : (sampleCatalog.episodesOfFile "aa").head? = some sampleCatalog.episodes[2] := by
    decide +kernel
  exact hlinked

theorem series_sampleCatalog :
    sampleCatalog.seriesOfShow? sampleCatalog.episodes[2].showId = some sampleCatalog.series[0] := by
  decide +kernel

/-- The episodes of the sample from the newest to the oldest. -/
theorem newestFirst_sampleCatalog :
    newestFirst (sampleCatalog.episodesOfSeries sampleCatalog.series[0].id) =
      [sampleCatalog.episodes[1], sampleCatalog.episodes[0], sampleCatalog.episodes[2]] := by
  rw [newestFirst_eq_insertionSort]
  decide +kernel

/-- The file of the newest episode is visited first, and the file to be placed last. -/
theorem linkedFiles_sampleCatalog : linkedFiles sampleCatalog
    [sampleCatalog.episodes[1], sampleCatalog.episodes[0], sampleCatalog.episodes[2]] =
      [sampleCatalog.files[2], sampleCatalog.files[1], sampleCatalog.files[0]] := by
  decide +kernel

theorem resolveDestination_sampleFile (h : filesystem.Settles options) (size : UInt64)
    (path : Path) :
    resolveDestination sampleCatalog filesystem options (sampleFile size path) =
      some ((sampleSearch filesystem options size path).outcome sampleCatalog.series[0]
        [sampleCatalog.files[2], sampleCatalog.files[1], sampleCatalog.files[0]]) := by
  rw [resolveDestination_eq_outcome h (isAt_sampleFile size path) (linked_sampleFile size path)
    series_sampleCatalog, newestFirst_sampleCatalog, linkedFiles_sampleCatalog]
  rfl

end Placement

end MediaShelf
