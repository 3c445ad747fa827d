import MediaShelf.Catalog.Basic

/-!
# Snapshots of the catalog

A snapshot is a frozen copy of everything that naming and placing may ask for: lists of records, in
the order in which the catalog gives them. Where several records share an id, the first one counts.

Files and episodes are linked by cross references, which name a file by the hash of its content.
Both directions of the link ignore the case of the hash. The episodes of a file come in order of
show and number, so that the first and the last one bound the range that a file covers.
-/

namespace MediaShelf

/-- Drops the items at the front and in the body of a list that repeat the key before them. -/
def dropRepeatsAfter {α κ : Type} [DecidableEq κ] (key : α → κ) (previous : κ) : List α → List α
  | [] => []
  | a :: rest =>
    if key a = previous then dropRepeatsAfter key previous rest
    else a :: dropRepeatsAfter key (key a) rest

/-- Keeps the first of several neighbours with one key. -/
def dropRepeats {α κ : Type} [DecidableEq κ] (key : α → κ) : List α → List α
  | [] => []
  | a :: rest => a :: dropRepeatsAfter key (key a) rest

/-- A frozen copy of the catalog. -/
structure Snapshot where
  shows : List Show := []
  series : List Series := []
  episodes : List Episode := []
  files : List MediaFile := []
  /-- The links between files and episodes. -/
  crossReferences : List CrossReference := []
  /-- The folders of the library. -/
  folders : List Folder := []
deriving DecidableEq

namespace Snapshot

/-- Adds a show behind the others. -/
def addShow (s : Snapshot) (item : Show) : Snapshot :=
  { s with shows := s.shows ++ [item] }

/-- Adds a series behind the others. -/
def addSeries (s : Snapshot) (item : Series) : Snapshot :=
  { s with series := s.series ++ [item] }

/-- Adds an episode behind the others. -/
def addEpisode (s : Snapshot) (item : Episode) : Snapshot :=
  { s with episodes := s.episodes ++ [item] }

/-- Adds a file behind the others. -/
def addFile (s : Snapshot) (item : MediaFile) : Snapshot :=
  { s with files := s.files ++ [item] }

/-- Adds a cross reference behind the others. -/
def addCrossReference (s : Snapshot) (item : CrossReference) : Snapshot :=
  { s with crossReferences := s.crossReferences ++ [item] }

/-- Adds a folder behind the others. -/
def addFolder (s : Snapshot) (item : Folder) : Snapshot :=
  { s with folders := s.folders ++ [item] }

/-- The show with an id. -/
def show? (s : Snapshot) (id : UInt64) : Option Show :=
  s.shows.find? (·.id == id)

/-- The file with an id. -/
def file? (s : Snapshot) (id : UInt64) : Option MediaFile :=
  s.files.find? (·.id == id)

/-- The episode with an id. -/
def episode? (s : Snapshot) (id : UInt64) : Option Episode :=
  s.episodes.find? (·.id == id)

/-- The folder with an id. -/
def folder? (s : Snapshot) (id : UInt64) : Option Folder :=
  s.folders.find? (·.id == id)

/-- The series that groups a show's episodes. -/
def seriesOfShow? (s : Snapshot) (showId : UInt64) : Option Series :=
  s.series.find? (·.showId == showId)

/-- The episodes of the show of a series, in the catalog's order. -/
def episodesOfSeries (s : Snapshot) (seriesId : UInt64) : List Episode :=
  match s.series.find? (·.id == seriesId) with
  | some series => s.episodes.filter (·.showId == series.showId)
  | none => []

/-- Whether an episode does not belong behind another one: shows come by id, and the episodes of a
show by number. -/
def comesFirst (a b : Episode) : Bool :=
  a.showId < b.showId || (a.showId == b.showId && a.number ≤ b.number)

/-- The episodes that the references link to a hash, as often as they do. -/
def linkedEpisodes (s : Snapshot) (hash : String) : List Episode :=
  (s.crossReferences.filter (·.links hash)).filterMap fun reference =>
    s.episode? reference.episodeId

/-- The episodes of the files with a hash, in order. -/
def episodesOfFile (s : Snapshot) (hash : String) : List Episode :=
  dropRepeats (·.id) ((s.linkedEpisodes hash).mergeSort comesFirst)

/-- The references that link files to an episode. -/
def referencesTo (s : Snapshot) (episodeId : UInt64) : List CrossReference :=
  s.crossReferences.filter (·.episodeId == episodeId)

/-- The files that are linked to an episode, in the catalog's order. -/
def filesOfEpisode (s : Snapshot) (episodeId : UInt64) : List MediaFile :=
  let references := s.referencesTo episodeId
  s.files.filter fun file => references.any (·.links file.hash)

/-- The shows that the files of an episode are linked to, by id and each once. More than one means
that the episode is part of a crossover. -/
def showsOfEpisode (s : Snapshot) (episodeId : UInt64) : List UInt64 :=
  dropRepeats id (((s.referencesTo episodeId).map (·.showId)).mergeSort (· ≤ ·))

/-- The folders to which files go for which nothing better is known. -/
def defaultDestinations (s : Snapshot) : List Folder :=
  s.folders.filter (·.isDefaultDestination)

end Snapshot

end MediaShelf
