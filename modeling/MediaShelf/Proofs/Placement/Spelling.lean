import MediaShelf.Proofs.Path.Spelling
import MediaShelf.Proofs.Placement.Volumes
import Mathlib.Data.List.Forall2

/-!
# Placement and spellings

Placement compares paths in several ways: it looks them up in a table, it measures how deep inside of
each other they lie, it puts them together and takes them apart. None of this can tell two spellings
of a path apart, and so the whole search cannot.

For every kind of record there is a relation that says that two of them differ at most in how their
paths are spelled. The search is followed loop by loop with two such searches side by side. What has
to be shown of the filesystem is that it finds the same directories usable (`isUsable_eq`); the path
that a failed query complains about may be spelled in another way, but that is never told to anybody.
-/

namespace MediaShelf

/-! ## Records in other spellings -/

def Folder.Respelled (a b : Folder) : Prop :=
  ∃ path, a.path.Respelled path ∧ b = { a with path }

def Location.Respelled (a b : Location) : Prop :=
  ∃ relativePath, a.relativePath.Respelled relativePath ∧ b = { a with relativePath }

def MediaFile.Respelled (a b : MediaFile) : Prop :=
  ∃ locations, List.Forall₂ Location.Respelled a.locations locations ∧ b = { a with locations }

def Snapshot.Respelled (a b : Snapshot) : Prop :=
  ∃ files folders, List.Forall₂ MediaFile.Respelled a.files files ∧
    List.Forall₂ Folder.Respelled a.folders folders ∧ b = { a with files, folders }

/-- The directories keep their volumes. -/
def VolumeTable.Respelled (a b : VolumeTable) : Prop :=
  ∃ directories failing hanging,
    List.Forall₂ (fun entry other => entry.1.Respelled other.1 ∧ entry.2 = other.2)
      a.directories directories ∧
    List.Forall₂ Path.Respelled a.failing failing ∧
    List.Forall₂ Path.Respelled a.hanging hanging ∧ b = { a with directories, failing, hanging }

structure Destination.Respelled (a b : Destination) : Prop where
  folder : a.folder.Respelled b.folder
  relativePath : a.relativePath.Respelled b.relativePath

/-- Two results of placement: one error, or a destination in two spellings. -/
inductive Destination.ResultRespelled :
    Except PlacementError Destination → Except PlacementError Destination → Prop where
  | error (error : PlacementError) : ResultRespelled (.error error) (.error error)
  | ok {a b : Destination} (respelled : a.Respelled b) : ResultRespelled (.ok a) (.ok b)

theorem Folder.Respelled.path_eq {a b : Folder} (h : a.Respelled b) : a.path.Respelled b.path := by
  obtain ⟨path, hpath, rfl⟩ := h
  exact hpath

theorem Location.Respelled.directory {a b : Location} (h : a.Respelled b) :
    a.directory.Respelled b.directory := by
  obtain ⟨path, hpath, rfl⟩ := h
  rw [Path.Respelled, Path.components_directory, Path.components_directory, hpath]

theorem Destination.Respelled.path {a b : Destination} (h : a.Respelled b) :
    a.path.Respelled b.path :=
  h.folder.path_eq.join h.relativePath

/-- A search through two lists of related items for what is told alike of them. -/
theorem rel_find? {α β : Type} {r : α → β → Prop} {p : α → Bool} {q : β → Bool}
    (hpq : ∀ a b, r a b → p a = q b) {as : List α} {bs : List β} (h : List.Forall₂ r as bs) :
    Option.Rel r (as.find? p) (bs.find? q) := by
  induction h with
  | nil => exact .none
  | @cons a b _ _ hab _ ih =>
      rw [List.find?_cons, List.find?_cons, hpq a b hab]
      cases q b with
      | true => exact .some hab
      | false => exact ih

/-! ## Tables -/

namespace VolumeTable

variable {a b : VolumeTable} {path path' : Path}

theorem listed_eq {paths paths' : List Path} (h : List.Forall₂ Path.Respelled paths paths')
    (hpath : path.Respelled path') : listed paths path = listed paths' path' := by
  induction h with
  | nil => rfl
  | cons hfirst _ ih =>
      simp only [listed, List.any_cons, hfirst.sameAs_eq hpath]
      exact congrArg _ ih

namespace Respelled

theorem volumeAt?_eq (h : a.Respelled b) (place : List Path.Component) :
    a.volumeAt? place = b.volumeAt? place := by
  obtain ⟨directories, failing, hanging, hdirectories, -, -, rfl⟩ := h
  have hfound := rel_find? (p := (·.1.components == place)) (q := (·.1.components == place))
    (fun _ _ hentry => by rw [hentry.1]) (List.forall₂_reverse_iff.2 hdirectories)
  rw [volumeAt?, volumeAt?]
  generalize a.directories.reverse.find? _ = one, directories.reverse.find? _ = two at hfound
  cases hfound with
  | none => rfl
  | some hentry => rw [Option.map_some, Option.map_some, hentry.2]

theorem volume?_eq (h : a.Respelled b) (hpath : path.Respelled path') :
    a.volume? path = b.volume? path' := by
  rw [Path.Respelled] at hpath
  ext volume
  simp only [volume?_eq_some_iff, h.volumeAt?_eq, hpath]

theorem listed_directories_eq (h : a.Respelled b) (hpath : path.Respelled path') :
    listed (a.directories.map (·.1)) path = listed (b.directories.map (·.1)) path' := by
  rw [Bool.eq_iff_iff, listed_directories_iff, listed_directories_iff, h.volumeAt?_eq, hpath]

theorem listed_hanging_eq (h : a.Respelled b) (hpath : path.Respelled path') :
    listed a.hanging path = listed b.hanging path' := by
  obtain ⟨directories, failing, hanging, -, -, hhanging, rfl⟩ := h
  exact listed_eq hhanging hpath

theorem listed_failing_eq (h : a.Respelled b) (hpath : path.Respelled path') :
    listed a.failing path = listed b.failing path' := by
  obtain ⟨directories, failing, hanging, -, hfailing, -, rfl⟩ := h
  exact listed_eq hfailing hpath

theorem freeOn_eq (h : a.Respelled b) (volume : UInt64) : a.freeOn volume = b.freeOn volume := by
  obtain ⟨directories, failing, hanging, -, -, -, rfl⟩ := h
  rfl

end Respelled

end VolumeTable

/-! ## Replies

Replies say the same if they differ at most in the path that a failure names. -/

inductive Reply.Alike {α : Type} : Reply α → Reply α → Prop where
  | answers (a : α) : Alike (.answers a) (.answers a)
  | fails (path path' : Path) : Alike (.fails path) (.fails path')
  | silent : Alike .silent .silent

namespace VolumeTable.Respelled

variable {a b : VolumeTable} {path path' other other' : Path} {α : Type}

theorem reply_alike (h : a.Respelled b) (hpath : path.Respelled path') {answer answer' : Reply α}
    (hanswer : answer.Alike answer') : (a.reply path answer).Alike (b.reply path' answer') := by
  rw [reply, reply, h.listed_hanging_eq hpath, h.listed_failing_eq hpath]
  split
  · exact .silent
  · split
    · exact .fails path path'
    · exact hanswer

theorem withVolume_alike (h : a.Respelled b) (hpath : path.Respelled path')
    {next next' : UInt64 → Reply α} (hnext : ∀ volume, (next volume).Alike (next' volume)) :
    (a.withVolume path next).Alike (b.withVolume path' next') := by
  rw [withVolume, withVolume, h.volume?_eq hpath]
  cases b.volume? path' with
  | none => exact .fails path path'
  | some volume => exact hnext volume

theorem isDir_alike (h : a.Respelled b) (hpath : path.Respelled path') :
    (a.filesystem.isDir path).Alike (b.filesystem.isDir path') := by
  refine h.reply_alike hpath ?_
  rw [h.listed_directories_eq hpath]
  exact .answers _

theorem freeBytes_alike (h : a.Respelled b) (hpath : path.Respelled path') :
    (a.filesystem.freeBytes path).Alike (b.filesystem.freeBytes path') := by
  refine h.reply_alike hpath (h.withVolume_alike hpath fun volume => ?_)
  rw [h.freeOn_eq]
  exact .answers _

theorem sameVolume_alike (h : a.Respelled b) (hpath : path.Respelled path')
    (hother : other.Respelled other') :
    (a.filesystem.sameVolume path other).Alike (b.filesystem.sameVolume path' other') :=
  h.reply_alike hpath (h.reply_alike hother (h.withVolume_alike hpath fun _ =>
    h.withVolume_alike hother fun _ => .answers _))

end VolumeTable.Respelled

/-! ## Usable directories -/

/-- Outcomes of queries that differ at most in why a query failed. -/
inductive SameOutcome {α : Type} :
    Option (Except PlacementError α) → Option (Except PlacementError α) → Prop where
  | ok (a : α) : SameOutcome (some (.ok a)) (some (.ok a))
  | error (error error' : PlacementError) : SameOutcome (some (.error error)) (some (.error error'))
  | never : SameOutcome none none

theorem Reply.Alike.await {α : Type} {reply reply' : Reply α} (h : reply.Alike reply')
    (options : PlacementOptions) (path path' : Path) :
    SameOutcome (options.await path reply) (options.await path' reply') := by
  cases h with
  | answers a => exact .ok a
  | fails => exact .error _ _
  | silent =>
      simp only [PlacementOptions.await]
      split
      · exact .error _ _
      · exact .never

theorem SameOutcome.map {α β : Type} {one two : Option (Except PlacementError α)}
    (h : SameOutcome one two) (f : α → β) :
    SameOutcome (one.map (·.map f)) (two.map (·.map f)) := by
  cases h with
  | ok a => exact .ok (f a)
  | error e e' => exact .error e e'
  | never => exact .never

/-- Two searches for one file, in which paths are spelled differently. -/
structure Placement.Respelled (p q : Placement) : Prop where
  snapshot : p.snapshot.Respelled q.snapshot
  filesystem : ∃ a b : VolumeTable, p.filesystem = a.filesystem ∧ q.filesystem = b.filesystem ∧
    a.Respelled b
  options : p.options = q.options
  file : p.file.Respelled q.file
  currentFolder : p.currentFolder.Respelled q.currentFolder
  currentDirectory : p.currentDirectory.Respelled q.currentDirectory

namespace Placement.Respelled

variable {p q : Placement} {folder folder' : Folder} {directory directory' : Path}

theorem hash_eq (h : p.Respelled q) : p.file.hash = q.file.hash := by
  obtain ⟨locations, -, hfile⟩ := h.file
  rw [hfile]

theorem size_eq (h : p.Respelled q) : p.file.size = q.file.size := by
  obtain ⟨locations, -, hfile⟩ := h.file
  rw [hfile]

theorem fits_same (h : p.Respelled q) (hfolder : folder.Respelled folder') :
    SameOutcome (p.fits folder) (q.fits folder') := by
  obtain ⟨a, b, hp, hq, htables⟩ := h.filesystem
  have hroom := ((htables.sameVolume_alike h.currentFolder.path_eq hfolder.path_eq).await
    q.options folder.path folder'.path)
  have hfree := ((htables.freeBytes_alike hfolder.path_eq).await q.options folder.path folder'.path)
  simp only [fits, hp, hq, h.options, h.size_eq]
  split
  · exact .ok true
  · generalize q.options.await folder.path (a.filesystem.sameVolume _ _) = one,
      q.options.await folder'.path (b.filesystem.sameVolume _ _) = two at hroom
    cases hroom with
    | ok same =>
        cases same with
        | true => exact .ok true
        | false => exact hfree.map _
    | error error error' => exact .error error error'
    | never => exact .never

theorem isUsable_eq (h : p.Respelled q) (hfolder : folder.Respelled folder')
    (hdirectory : directory.Respelled directory') :
    p.isUsable folder directory = q.isUsable folder' directory' := by
  obtain ⟨a, b, hp, hq, htables⟩ := h.filesystem
  have hdir := (htables.isDir_alike hdirectory).await q.options directory directory'
  have hfits := h.fits_same hfolder
  rw [isUsable, isUsable, hp, hq, h.options]
  generalize q.options.await directory (a.filesystem.isDir directory) = one,
    q.options.await directory' (b.filesystem.isDir directory') = two at hdir
  generalize p.fits folder = room, q.fits folder' = room' at hfits
  cases hdir with
  | ok found =>
      cases found with
      | true => cases hfits <;> rfl
      | false => rfl
  | error => rfl
  | never => rfl

end Placement.Respelled

/-! ## The catalog -/

namespace Snapshot.Respelled

variable {a b : Snapshot}

theorem folder?_rel (h : a.Respelled b) (id : UInt64) :
    Option.Rel Folder.Respelled (a.folder? id) (b.folder? id) := by
  obtain ⟨files, folders, -, hfolders, rfl⟩ := h
  refine rel_find? ?_ hfolders
  rintro folder _ ⟨path, -, rfl⟩
  rfl

theorem filesOfEpisode_rel (h : a.Respelled b) (id : UInt64) :
    List.Forall₂ MediaFile.Respelled (a.filesOfEpisode id) (b.filesOfEpisode id) := by
  obtain ⟨files, folders, hfiles, -, rfl⟩ := h
  refine List.rel_filter ?_ hfiles
  rintro file _ ⟨locations, -, rfl⟩
  rfl

theorem defaultDestinations_rel (h : a.Respelled b) :
    List.Forall₂ Folder.Respelled a.defaultDestinations b.defaultDestinations := by
  obtain ⟨files, folders, -, hfolders, rfl⟩ := h
  refine List.rel_filter ?_ hfolders
  rintro folder _ ⟨path, -, rfl⟩
  rfl

theorem showsOfEpisode_eq (h : a.Respelled b) : a.showsOfEpisode = b.showsOfEpisode := by
  obtain ⟨files, folders, -, -, rfl⟩ := h
  rfl

theorem episodesOfFile_eq (h : a.Respelled b) : a.episodesOfFile = b.episodesOfFile := by
  obtain ⟨files, folders, -, -, rfl⟩ := h
  rfl

theorem seriesOfShow?_eq (h : a.Respelled b) : a.seriesOfShow? = b.seriesOfShow? := by
  obtain ⟨files, folders, -, -, rfl⟩ := h
  rfl

theorem episodesOfSeries_eq (h : a.Respelled b) : a.episodesOfSeries = b.episodesOfSeries := by
  obtain ⟨files, folders, -, -, rfl⟩ := h
  rfl

end Snapshot.Respelled

/-! ## The search -/

namespace Placement

variable {p q : Placement}

theorem locate?_rel {a b : Snapshot} (h : a.Respelled b) {locations locations' : List Location}
    (hlocations : List.Forall₂ Location.Respelled locations locations') :
    Option.Rel (fun found other => found.1.Respelled other.1 ∧ found.2.Respelled other.2)
      (locate? a locations) (locate? b locations') := by
  induction hlocations with
  | nil => exact .none
  | @cons location _ _ _ hlocation _ ih =>
      have hfolder := h.folder?_rel location.folderId
      obtain ⟨path, hpath, rfl⟩ := id hlocation
      rw [locate?, locate?]
      generalize a.folder? location.folderId = one, b.folder? location.folderId = two at hfolder
      cases hfolder with
      | none => exact ih
      | some hfolder => exact .some ⟨hfolder, hlocation⟩

namespace Respelled

theorem firstUsable_rel (h : p.Respelled q) {folders folders' : List Folder}
    (hfolders : List.Forall₂ Folder.Respelled folders folders') :
    Option.Rel (Option.Rel Folder.Respelled) (p.firstUsable folders) (q.firstUsable folders') := by
  induction hfolders with
  | nil => exact .some .none
  | cons hfolder _ ih =>
      rw [firstUsable, firstUsable, h.isUsable_eq hfolder hfolder.path_eq]
      split
      · exact .some (.some hfolder)
      · exact ih
      · exact .none

theorem isKeptByHand_eq (h : p.Respelled q) {location location' : Location}
    (hlocation : location.Respelled location') :
    p.isKeptByHand location = q.isKeptByHand location' := by
  obtain ⟨path, -, rfl⟩ := hlocation
  have hfolder := h.snapshot.folder?_rel location.folderId
  rw [isKeptByHand, isKeptByHand]
  generalize p.snapshot.folder? location.folderId = one,
    q.snapshot.folder? location.folderId = two at hfolder
  cases hfolder with
  | none => rfl
  | some hfolder =>
      obtain ⟨path, -, rfl⟩ := hfolder
      rfl

theorem all_isKeptByHand_eq (h : p.Respelled q) {locations locations' : List Location}
    (hlocations : List.Forall₂ Location.Respelled locations locations') :
    locations.all p.isKeptByHand = locations'.all q.isKeptByHand := by
  induction hlocations with
  | nil => rfl
  | cons hlocation _ ih => rw [List.all_cons, List.all_cons, h.isKeptByHand_eq hlocation, ih]

theorem suggestion?_rel (h : p.Respelled q) {sibling sibling' : MediaFile}
    (hsibling : sibling.Respelled sibling') :
    Option.Rel Destination.Respelled (p.suggestion? sibling) (q.suggestion? sibling') := by
  obtain ⟨locations, hlocations, rfl⟩ := hsibling
  rw [suggestion?, suggestion?, h.all_isKeptByHand_eq hlocations]
  generalize sibling.locations = front at hlocations
  split
  · cases hlocations with
    | nil => exact .none
    | @cons location _ _ _ hlocation _ =>
        have hfolder := h.snapshot.folder?_rel location.folderId
        obtain ⟨path, hpath, rfl⟩ := id hlocation
        simp only
        generalize p.snapshot.folder? location.folderId = one,
          q.snapshot.folder? location.folderId = two at hfolder
        cases hfolder with
        | none => exact .none
        | some hfolder => exact .some ⟨hfolder, hlocation.directory⟩
  · exact .none

theorem consider?_rel (h : p.Respelled q) {sibling sibling' : MediaFile}
    (hsibling : sibling.Respelled sibling') :
    Option.Rel Destination.Respelled (p.consider? sibling) (q.consider? sibling') := by
  have hsuggestion := h.suggestion?_rel hsibling
  obtain ⟨locations, -, rfl⟩ := hsibling
  rw [consider?, consider?, h.hash_eq]
  split
  · exact .none
  · generalize p.suggestion? sibling = one, q.suggestion? _ = two at hsuggestion
    cases hsuggestion with
    | none => exact .none
    | some hdestination =>
        -- The directory where the file is already is passed over in every spelling.
        rw [Option.filter_some, Option.filter_some,
          hdestination.path.sameAs_eq h.currentDirectory]
        split
        · exact .some hdestination
        · exact .none

theorem visitFiles_rel (h : p.Respelled q) {files files' : List MediaFile}
    (hfiles : List.Forall₂ MediaFile.Respelled files files') :
    Option.Rel (Option.Rel Destination.Respelled) (p.visitFiles files) (q.visitFiles files') := by
  induction hfiles with
  | nil => exact .some .none
  | @cons sibling sibling' _ _ hsibling _ ih =>
      have hconsider := h.consider?_rel hsibling
      rw [visitFiles, visitFiles]
      generalize p.consider? sibling = one, q.consider? sibling' = two at hconsider
      cases hconsider with
      | none => exact ih
      | some hdestination =>
          simp only [h.isUsable_eq hdestination.folder hdestination.path]
          split
          · exact .some (.some hdestination)
          · exact ih
          · exact .none

theorem visitEpisodes_rel (h : p.Respelled q) (episodes : List Episode) :
    Option.Rel (Option.Rel Destination.Respelled) (p.visitEpisodes episodes)
      (q.visitEpisodes episodes) := by
  induction episodes with
  | nil => exact .some .none
  | cons episode rest ih =>
      have hvisit := h.visitFiles_rel (h.snapshot.filesOfEpisode_rel episode.id)
      rw [visitEpisodes, visitEpisodes, h.snapshot.showsOfEpisode_eq]
      split
      · exact ih
      · generalize p.visitFiles _ = one, q.visitFiles _ = two at hvisit
        cases hvisit with
        | none => exact .none
        | some hfound =>
            cases hfound with
            | none => exact ih
            | some hdestination => exact .some (.some hdestination)

theorem destination_rel (h : p.Respelled q) {fallback fallback' : Option Folder}
    (hfallback : Option.Rel Folder.Respelled fallback fallback') :
    Option.Rel Destination.ResultRespelled (p.destination fallback) (q.destination fallback') := by
  rw [destination, destination, h.hash_eq, h.snapshot.episodesOfFile_eq,
    h.snapshot.seriesOfShow?_eq, h.snapshot.episodesOfSeries_eq]
  split
  · exact .some (.error _)
  · split
    · exact .some (.error _)
    · next series _ =>
        have hvisit := h.visitEpisodes_rel
          (newestFirst (q.snapshot.episodesOfSeries series.id))
        simp only
        generalize p.visitEpisodes _ = one, q.visitEpisodes _ = two at hvisit
        cases hvisit with
        | none => exact .none
        | some hsuggested =>
            cases hsuggested with
            | some hdestination => exact .some (.ok hdestination)
            | none =>
                cases hfallback with
                | none => exact .some (.error _)
                | some hfolder => exact .some (.ok ⟨hfolder, .refl _⟩)

theorem search_rel (h : p.Respelled q) :
    Option.Rel Destination.ResultRespelled
      (match p.firstUsable p.snapshot.defaultDestinations with
        | some fallback => p.destination fallback
        | none => none)
      (match q.firstUsable q.snapshot.defaultDestinations with
        | some fallback => q.destination fallback
        | none => none) := by
  have hfallback := h.firstUsable_rel h.snapshot.defaultDestinations_rel
  generalize p.firstUsable _ = one, q.firstUsable _ = two at hfallback
  cases hfallback with
  | none => exact .none
  | some hfallback => exact h.destination_rel hfallback

end Respelled

end Placement

/-- Placement ends alike for paths in whatever spelling: with one error, or with a destination in
spellings of its own, or not at all. -/
theorem resolveDestination_respelled {snapshot snapshot' : Snapshot} {table table' : VolumeTable}
    {file file' : MediaFile} (hsnapshot : snapshot.Respelled snapshot')
    (htable : table.Respelled table') (hfile : file.Respelled file') (options : PlacementOptions) :
    Option.Rel Destination.ResultRespelled
      (resolveDestination snapshot table.filesystem options file)
      (resolveDestination snapshot' table'.filesystem options file') := by
  obtain ⟨locations, hlocations, rfl⟩ := id hfile
  have hlocate := Placement.locate?_rel hsnapshot hlocations
  rw [resolveDestination, resolveDestination]
  simp only
  generalize Placement.locate? snapshot file.locations = one,
    Placement.locate? snapshot' locations = two at hlocate
  cases hlocate with
  | none => exact .some (.error _)
  | @some here there hfound =>
      obtain ⟨folder, location⟩ := here
      obtain ⟨folder', location'⟩ := there
      obtain ⟨hfolder, hlocation⟩ := hfound
      have hsearch : Placement.Respelled
          ⟨snapshot, table.filesystem, options, file, folder,
            folder.path.join location.directory⟩
          ⟨snapshot', table'.filesystem, options, { file with locations }, folder',
            folder'.path.join location'.directory⟩ :=
        ⟨hsnapshot, ⟨table, table', rfl, rfl, htable⟩, rfl, hfile, hfolder,
          hfolder.path_eq.join hlocation.directory⟩
      exact hsearch.search_rel

namespace Placement

/-- The sample with separators and dots that say nothing. -/
def spelledCatalog : Snapshot :=
  { sampleCatalog with
    files := [
      { id := 1, fileName := "new.mkv", hash := "aa", size := 10,
        locations := [⟨1, ⟨"new.mkv/"⟩⟩] },
      { id := 2, fileName := "01.mkv", hash := "bb", size := 10,
        locations := [⟨2, ⟨"Mushishi//01.mkv"⟩⟩] },
      { id := 3, fileName := "02.mkv", hash := "cc", size := 10,
        locations := [⟨3, ⟨"Mushishi 2/./02.mkv"⟩⟩] }]
    folders := [
      { id := 1, path := ⟨"/in/"⟩, isDropSource := true },
      { id := 2, path := ⟨"//tv"⟩, isExcludedFromPlacement := true },
      { id := 3, path := ⟨"/./gone"⟩, isExcludedFromPlacement := true }] }

/-- The volumes of the sample, with other spellings of their directories. -/
def spelledTable : VolumeTable :=
  { shareTable 100 with
    directories := [(⟨"/in/."⟩, 1), (⟨"/tv/"⟩, 2), (⟨"//tv/Mushishi/"⟩, 2), (⟨"/gone//"⟩, 3),
      (⟨"/gone/./Mushishi 2"⟩, 3)] }

theorem respelled_spelledCatalog : sampleCatalog.Respelled spelledCatalog := by
  refine ⟨_, _, .cons ⟨_, ?_, rfl⟩ (.cons ⟨_, ?_, rfl⟩ (.cons ⟨_, ?_, rfl⟩ .nil)),
    .cons ⟨_, ?_, rfl⟩ (.cons ⟨_, ?_, rfl⟩ (.cons ⟨_, ?_, rfl⟩ .nil)), rfl⟩
  · exact .cons ⟨_, by decide +kernel, rfl⟩ .nil
  · exact .cons ⟨_, by decide +kernel, rfl⟩ .nil
  · exact .cons ⟨_, by decide +kernel, rfl⟩ .nil
  all_goals decide +kernel

theorem respelled_spelledTable : (shareTable 100).Respelled spelledTable := by
  refine ⟨_, [], [], ?_, .nil, .nil, rfl⟩
  exact .cons ⟨by decide +kernel, rfl⟩ (.cons ⟨by decide +kernel, rfl⟩
    (.cons ⟨by decide +kernel, rfl⟩ (.cons ⟨by decide +kernel, rfl⟩
      (.cons ⟨by decide +kernel, rfl⟩ .nil))))

/-- The newest sibling decides in both spellings. -/
theorem resolveDestination_respelled_sample :
    sampleCatalog.Respelled spelledCatalog ∧ (shareTable 100).Respelled spelledTable ∧
      (sampleFile 10 ⟨"new.mkv"⟩).Respelled (sampleFile 10 ⟨"new.mkv/."⟩) ∧
      ∃ destination, resolveDestination spelledCatalog spelledTable.filesystem {}
          (sampleFile 10 ⟨"new.mkv/."⟩) = some (.ok destination) ∧
        destination.path.Respelled ⟨"/gone/Mushishi 2"⟩ := by
  have hfile : (sampleFile 10 ⟨"new.mkv"⟩).Respelled (sampleFile 10 ⟨"new.mkv/."⟩) :=
    ⟨_, .cons ⟨_, by decide +kernel, rfl⟩ .nil, rfl⟩
  have hshare : resolveDestination sampleCatalog (shareTable 100).filesystem {}
      (sampleFile 10 ⟨"new.mkv"⟩) = some (.ok ⟨sampleCatalog.folders[2], ⟨"Mushishi 2"⟩⟩) := by
    rw [resolveDestination_sampleFile (VolumeTable.settles (Or.inr rfl))]
    decide +kernel
  refine ⟨respelled_spelledCatalog, respelled_spelledTable, hfile, ?_⟩
  have hrespelled := resolveDestination_respelled respelled_spelledCatalog respelled_spelledTable
    hfile {}
  rw [hshare] at hrespelled
  generalize resolveDestination spelledCatalog _ _ _ = result at hrespelled
  cases hrespelled with
  | some hresult =>
      cases hresult with
      | ok hdestination =>
          refine ⟨_, rfl, ?_⟩
          rw [Path.Respelled, ← hdestination.path]
          decide +kernel

end Placement

end MediaShelf
