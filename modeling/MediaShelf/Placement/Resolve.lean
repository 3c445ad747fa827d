import MediaShelf.Catalog.Snapshot
import MediaShelf.Placement.Destination
import MediaShelf.Placement.Query
import MediaShelf.Script.SafeName

/-!
# Where a file should live

The files of a series stay together. The episodes of the series are visited from the newest to the
oldest, and of each episode the files in the catalog's order; the first file that lies in a usable
directory decides. A file has a say only if every copy of it is in a folder that is excluded from
placement, because those are the folders that the user keeps in order by hand. Without such a file,
the new one goes into a directory with the name of the series in the first usable folder for
dropped files.

A directory is usable if it exists and its volume has room for the file. Trouble with a query makes
the directory unusable and nothing else.
-/

namespace MediaShelf

/-- Whether an episode aired no earlier than another. One without a date comes last. -/
def airsNoEarlier (a b : Episode) : Bool :=
  match a.airDate, b.airDate with
  | some a, some b => !a.before b
  | some _, none => true
  | none, some _ => false
  | none, none => true

/-- Episodes from the newest to the oldest; those of one date keep their order. -/
def newestFirst (episodes : List Episode) : List Episode :=
  episodes.mergeSort airsNoEarlier

/-- The search for a destination for a file. -/
structure Placement where
  snapshot : Snapshot
  filesystem : Filesystem
  options : PlacementOptions
  /-- The file to be placed. -/
  file : MediaFile
  /-- The folder it is in. -/
  currentFolder : Folder
  /-- The directory it is in. -/
  currentDirectory : Path

namespace Placement

/-- Whether a folder has room for the file. On the volume that the file is on, it always has. -/
def fits (placement : Placement) (folder : Folder) : Option (Except PlacementError Bool) :=
  let { filesystem, options, file, currentFolder, .. } := placement
  if options.skipSpaceChecks then some (.ok true)
  else
    match options.await folder.path (filesystem.sameVolume currentFolder.path folder.path) with
    | some (.ok true) => some (.ok true)
    | some (.ok false) =>
      (options.await folder.path (filesystem.freeBytes folder.path)).map fun free =>
        free.map fun bytes => decide (file.size ≤ bytes)
    | some (.error error) => some (.error error)
    | none => none

/-- Whether a directory of a folder exists and has room for the file. -/
def isUsable (placement : Placement) (folder : Folder) (directory : Path) : Option Bool :=
  match placement.options.await directory (placement.filesystem.isDir directory) with
  | some (.ok true) =>
    match placement.fits folder with
    | some (.ok room) => some room
    | some (.error _) => some false
    | none => none
  | some (.ok false) => some false
  | some (.error _) => some false
  | none => none

/-- The first usable one of some folders. -/
def firstUsable (placement : Placement) : List Folder → Option (Option Folder)
  | [] => some none
  | folder :: rest =>
    match placement.isUsable folder folder.path with
    | some true => some (some folder)
    | some false => placement.firstUsable rest
    | none => none

/-- Whether a copy is in a folder that is known and excluded from placement. -/
def isKeptByHand (placement : Placement) (location : Location) : Bool :=
  (placement.snapshot.folder? location.folderId).any (·.isExcludedFromPlacement)

/-- Where a sibling suggests to put the file: at the first copy of the sibling, if all of its copies
are in folders excluded from placement. -/
def suggestion? (placement : Placement) (sibling : MediaFile) : Option Destination :=
  if sibling.locations.all placement.isKeptByHand then
    match sibling.locations with
    | location :: _ =>
      (placement.snapshot.folder? location.folderId).map fun folder => ⟨folder, location.directory⟩
    | [] => none
  else none

/-- The suggestion of a linked file that is worth a look: the file is not the one to be placed, and
the suggestion is not where that one is already. -/
def consider? (placement : Placement) (sibling : MediaFile) : Option Destination :=
  if Text.sameIgnoringCase sibling.hash placement.file.hash then none
  else
    (placement.suggestion? sibling).filter fun destination =>
      !destination.path.sameAs placement.currentDirectory

/-- The first usable suggestion of some files. -/
def visitFiles (placement : Placement) : List MediaFile → Option (Option Destination)
  | [] => some none
  | sibling :: rest =>
    match placement.consider? sibling with
    | some destination =>
      match placement.isUsable destination.folder destination.path with
      | some true => some (some destination)
      | some false => placement.visitFiles rest
      | none => none
    | none => placement.visitFiles rest

/-- The first usable suggestion of the files of some episodes. An episode that several shows share
is passed over. -/
def visitEpisodes (placement : Placement) : List Episode → Option (Option Destination)
  | [] => some none
  | episode :: rest =>
    if (placement.snapshot.showsOfEpisode episode.id).length > 1 then placement.visitEpisodes rest
    else
      match placement.visitFiles (placement.snapshot.filesOfEpisode episode.id) with
      | some (some destination) => some (some destination)
      | some none => placement.visitEpisodes rest
      | none => none

/-- The directory named after a series in a folder. -/
def seriesDirectory (series : Series) (folder : Folder) : Destination :=
  ⟨folder, ⟨safeName series.name⟩⟩

/-- The destination, given the folder for the case that no sibling helps. -/
def destination (placement : Placement) (fallback : Option Folder) :
    Option (Except PlacementError Destination) :=
  match placement.snapshot.episodesOfFile placement.file.hash with
  | [] => some (.error .noCrossReferences)
  | episode :: _ =>
    match placement.snapshot.seriesOfShow? episode.showId with
    | none => some (.error .seriesNotFound)
    | some series =>
      let episodes := newestFirst (placement.snapshot.episodesOfSeries series.id)
      (placement.visitEpisodes episodes).map fun suggested =>
        match suggested.or (fallback.map (seriesDirectory series)) with
        | some destination => .ok destination
        | none => .error .noDestination

/-- The first location of a file that is in a known folder, with the folder. -/
def locate? (snapshot : Snapshot) : List Location → Option (Folder × Location)
  | [] => none
  | location :: rest =>
    match snapshot.folder? location.folderId with
    | some folder => some (folder, location)
    | none => locate? snapshot rest

end Placement

/-- Where a file should live. A folder to fall back on is looked for in any case, and before
anything can turn out to be wrong with the file's episodes. -/
def resolveDestination (snapshot : Snapshot) (filesystem : Filesystem) (options : PlacementOptions)
    (file : MediaFile) : Option (Except PlacementError Destination) :=
  match Placement.locate? snapshot file.locations with
  | none => some (.error (.noLocation file.id))
  | some (folder, location) =>
    let placement : Placement := {
      snapshot, filesystem, options, file
      currentFolder := folder
      currentDirectory := folder.path.join location.directory }
    match placement.firstUsable snapshot.defaultDestinations with
    | some fallback => placement.destination fallback
    | none => none

end MediaShelf
