import MediaShelf.Catalog.Kind
import MediaShelf.Date
import MediaShelf.Path
import MediaShelf.Text.Ascii

/-!
# The records of the catalog

What is known about shows, their episodes, and the files that hold them. A record is a plain value:
nothing here changes one in place. Ids are numbers of 64 bits that the catalog assigns; records
refer to each other by them, and a reference may dangle.
-/

namespace MediaShelf

/-- A title in a language. Languages are codes: `en`, `ja`, `x-jat` for romanized Japanese. -/
structure Title where
  /-- The code of the language. -/
  language : String
  /-- The standing of the title. -/
  kind : TitleKind := .synonym
  value : String
deriving DecidableEq

namespace Title

/-- Whether the title shows anything. -/
def isVisible (title : Title) : Bool :=
  Text.isVisible title.value

/-- Whether the title is in a language, whatever the case of its code. -/
def isIn (title : Title) (language : String) : Bool :=
  Text.sameIgnoringCase title.language language

end Title

/-- A show. -/
structure Show where
  id : UInt64
  /-- The format it was published in. -/
  kind : ShowKind := .unknown
  /-- The day its first episode aired. -/
  airDate : Option Date := none
  /-- Its titles, in the catalog's order. -/
  titles : List Title := []
  /-- How many normal episodes it has. -/
  normalEpisodes : UInt32 := 0
  /-- How many special episodes it has. -/
  specialEpisodes : UInt32 := 0
deriving DecidableEq

namespace Show

/-- The year in which the show started; 0 when the day is not known. -/
def year (s : Show) : Int :=
  match s.airDate with
  | some date => date.year
  | none => 0

/-- The first visible main title, in whatever language. -/
def mainTitle? (s : Show) : Option String :=
  (s.titles.find? fun title => title.kind == .main && title.isVisible).map (·.value)

/-- The first visible official title in a language. -/
def officialTitle? (s : Show) (language : String) : Option String :=
  (s.titles.find? fun title =>
    title.kind == .official && title.isIn language && title.isVisible).map (·.value)

end Show

/-- A show as it is kept locally, under the name that the user sees. -/
structure Series where
  id : UInt64
  /-- The show whose episodes it groups. -/
  showId : UInt64
  /-- Its name; the directory of the series is named after it. -/
  name : String
deriving DecidableEq

/-- An episode of a show. -/
structure Episode where
  id : UInt64
  /-- The show it belongs to. -/
  showId : UInt64
  kind : EpisodeKind := .normal
  /-- Its number among the episodes of its kind. -/
  number : UInt32
  airDate : Option Date := none
  /-- Its titles, in the catalog's order. -/
  titles : List Title := []
deriving DecidableEq

namespace Episode

/-- The first visible title in a language, of whatever standing. -/
def title? (episode : Episode) (language : String) : Option String :=
  (episode.titles.find? fun title => title.isIn language && title.isVisible).map (·.value)

end Episode

/-- A place where a copy of a file lies. -/
structure Location where
  folderId : UInt64
  /-- The path of the copy inside the folder, with its name. -/
  relativePath : Path
deriving DecidableEq

namespace Location

/-- The directory of the copy inside its folder; empty for a copy right in the folder. -/
def directory (location : Location) : Path :=
  location.relativePath.parent?.getD ⟨""⟩

end Location

/-- The pictures of a file. -/
structure VideoStream where
  /-- The width in pixels. -/
  width : UInt32
  /-- The height in pixels. -/
  height : UInt32
  /-- The bits of one colour sample. -/
  bitDepth : Option UInt8 := none
  codec : Option String := none
deriving DecidableEq

/-- The people who released a file. -/
structure ReleaseGroup where
  /-- Its id; 0 stands for an unknown group. -/
  id : UInt64
  shortName : String := ""
  longName : String := ""
deriving DecidableEq

/-- What the catalog knows about a released file. -/
structure Release where
  id : UInt64
  group : Option ReleaseGroup := none
  /-- Counts the corrected editions, from 1. -/
  version : UInt32 := 1
  /-- What it was made from. -/
  source : Source := .unknown
  /-- Whether it was censored. -/
  censored : Bool := false
  /-- Whether a better edition has replaced it. -/
  deprecated : Bool := false
  comment : String := ""
  /-- The name it was released under. -/
  originalFileName : Option String := none
  audioLanguages : List String := []
  /-- The languages of its subtitles. -/
  subtitleLanguages : List String := []
deriving DecidableEq

namespace Release

/-- The id of the group, where 0 stands for none. -/
def groupId (release : Release) : UInt64 :=
  match release.group with
  | some group => group.id
  | none => 0

end Release

/-- A file of the library. -/
structure MediaFile where
  id : UInt64
  /-- Its present name, with the extension. -/
  fileName : String
  /-- The hash of its content, by which files and episodes are linked. -/
  hash : String
  /-- A short checksum of its content. -/
  crc32 : Option String := none
  /-- Its size in bytes. -/
  size : UInt64
  video : Option VideoStream := none
  /-- The codecs of its sound tracks. -/
  audioCodecs : List String := []
  /-- The languages of its sound tracks as the file itself gives them. -/
  audioLanguages : List String := []
  /-- The languages of its subtitles as the file itself gives them. -/
  subtitleLanguages : List String := []
  /-- Whether the user linked it to its episodes by hand. -/
  manuallyLinked : Bool := false
  locations : List Location := []
  /-- The release it was recognized as. -/
  release : Option Release := none
deriving DecidableEq

namespace MediaFile

/-- The languages of the subtitles. What the catalog knows goes before what the file says. -/
def subtitleTracks (file : MediaFile) : List String :=
  match file.release with
  | some release => release.subtitleLanguages
  | none => file.subtitleLanguages

/-- The languages spoken. What the catalog knows goes before what the file says. -/
def audioTracks (file : MediaFile) : List String :=
  match file.release with
  | some release => release.audioLanguages
  | none => file.audioLanguages

/-- The extension of the file's name, unless it is empty. -/
def extension? (file : MediaFile) : Option String :=
  (Path.mk file.fileName).extension?.filter fun extension => !extension.isEmpty

end MediaFile

/-- Links the files of a content hash to an episode of a show. -/
structure CrossReference where
  /-- The hash of the files; the case of its letters has no meaning. -/
  fileHash : String
  episodeId : UInt64
  showId : UInt64
deriving DecidableEq

namespace CrossReference

/-- Whether the reference links the files of a hash. -/
def links (reference : CrossReference) (hash : String) : Bool :=
  Text.sameIgnoringCase reference.fileHash hash

end CrossReference

/-- A root folder of the library and the part it plays. -/
structure Folder where
  id : UInt64
  path : Path
  /-- New files are picked up here. -/
  isDropSource : Bool := false
  /-- Files for which nothing better is known may go here. -/
  isDropDestination : Bool := false
  /-- The folder is watched for changes. -/
  isWatched : Bool := false
  /-- The folder is left out of placement; files that lie only in such folders guide where their
  siblings go. -/
  isExcludedFromPlacement : Bool := false
deriving DecidableEq

namespace Folder

/-- Whether files for which nothing better is known go here. -/
def isDefaultDestination (folder : Folder) : Bool :=
  folder.isDropDestination && !folder.isDropSource

end Folder

end MediaShelf
