import MediaShelf.Catalog.Snapshot
import MediaShelf.Json.Record

/-!
# Snapshots as JSON

Every record is written as an object with all of its fields. Reading accepts what `Json.Record`
accepts: fields with a default may be left out, and a record may be an array of its fields in the
order given here. Kinds are written in their canonical text and read in any spelling, apart from the
kinds of titles, which have one text each.
-/

namespace MediaShelf

/-- Reads a kind from a text in any of its spellings. -/
def Json.spelled? {α : Type} (read : String → Except SpellingError α) (value : Json) : Option α :=
  (Json.string? value).bind fun s => (read s).toOption

namespace TitleKind

/-- Writes a kind of title. -/
def toJson (kind : TitleKind) : Json :=
  .str kind.text

/-- Reads a kind of title from its text, or from an object with the text as its only key and no
value. -/
def ofJson? : Json → Option TitleKind
  | .str s => ofText? s
  | .obj [(key, .null)] => ofText? key
  | _ => none

end TitleKind

namespace Title

/-- Writes a title. -/
def toJson (title : Title) : Json := .obj [
  ("language", .str title.language),
  ("kind", title.kind.toJson),
  ("value", .str title.value)]

/-- Reads a title. -/
def ofJson? (value : Json) : Option Title := do
  let record ← Json.Record.ofJson? ["language", "kind", "value"] value
  return {
    language := ← record.required "language" Json.string?
    kind := ← record.defaulted "kind" TitleKind.ofJson? .synonym
    value := ← record.required "value" Json.string? }

end Title

namespace Show

/-- Writes a show. -/
def toJson (s : Show) : Json := .obj [
  ("id", .ofNat s.id.toNat),
  ("kind", .str s.kind.text),
  ("air_date", Json.ofOption Date.toJson s.airDate),
  ("titles", Json.ofList Title.toJson s.titles),
  ("episode_count_normal", .ofNat s.normalEpisodes.toNat),
  ("episode_count_special", .ofNat s.specialEpisodes.toNat)]

/-- Reads a show. -/
def ofJson? (value : Json) : Option Show := do
  let record ← Json.Record.ofJson?
    ["id", "kind", "air_date", "titles", "episode_count_normal", "episode_count_special"] value
  return {
    id := ← record.required "id" Json.uint64?
    kind := ← record.defaulted "kind" (Json.spelled? ShowKind.read) .unknown
    airDate := ← record.defaulted "air_date" (Json.nullable? Date.ofJson?) none
    titles := ← record.defaulted "titles" (Json.list? Title.ofJson?) []
    normalEpisodes := ← record.defaulted "episode_count_normal" Json.uint32? 0
    specialEpisodes := ← record.defaulted "episode_count_special" Json.uint32? 0 }

end Show

namespace Series

/-- Writes a series. -/
def toJson (series : Series) : Json := .obj [
  ("id", .ofNat series.id.toNat),
  ("show_id", .ofNat series.showId.toNat),
  ("name", .str series.name)]

/-- Reads a series. -/
def ofJson? (value : Json) : Option Series := do
  let record ← Json.Record.ofJson? ["id", "show_id", "name"] value
  return {
    id := ← record.required "id" Json.uint64?
    showId := ← record.required "show_id" Json.uint64?
    name := ← record.required "name" Json.string? }

end Series

namespace Episode

/-- Writes an episode. -/
def toJson (episode : Episode) : Json := .obj [
  ("id", .ofNat episode.id.toNat),
  ("show_id", .ofNat episode.showId.toNat),
  ("kind", .str episode.kind.text),
  ("number", .ofNat episode.number.toNat),
  ("air_date", Json.ofOption Date.toJson episode.airDate),
  ("titles", Json.ofList Title.toJson episode.titles)]

/-- Reads an episode. -/
def ofJson? (value : Json) : Option Episode := do
  let record ← Json.Record.ofJson? ["id", "show_id", "kind", "number", "air_date", "titles"] value
  return {
    id := ← record.required "id" Json.uint64?
    showId := ← record.required "show_id" Json.uint64?
    kind := ← record.defaulted "kind" (Json.spelled? EpisodeKind.read) .normal
    number := ← record.required "number" Json.uint32?
    airDate := ← record.defaulted "air_date" (Json.nullable? Date.ofJson?) none
    titles := ← record.defaulted "titles" (Json.list? Title.ofJson?) [] }

end Episode

namespace Location

/-- Writes a location. -/
def toJson (location : Location) : Json := .obj [
  ("folder_id", .ofNat location.folderId.toNat),
  ("relative_path", .str location.relativePath.text)]

/-- Reads a location. -/
def ofJson? (value : Json) : Option Location := do
  let record ← Json.Record.ofJson? ["folder_id", "relative_path"] value
  return {
    folderId := ← record.required "folder_id" Json.uint64?
    relativePath := ⟨← record.required "relative_path" Json.string?⟩ }

end Location

namespace VideoStream

/-- Writes the pictures of a file. -/
def toJson (video : VideoStream) : Json := .obj [
  ("width", .ofNat video.width.toNat),
  ("height", .ofNat video.height.toNat),
  ("bit_depth", Json.ofOption (fun depth => .ofNat depth.toNat) video.bitDepth),
  ("codec", Json.ofOption .str video.codec)]

/-- Reads the pictures of a file. -/
def ofJson? (value : Json) : Option VideoStream := do
  let record ← Json.Record.ofJson? ["width", "height", "bit_depth", "codec"] value
  return {
    width := ← record.required "width" Json.uint32?
    height := ← record.required "height" Json.uint32?
    bitDepth := ← record.defaulted "bit_depth" (Json.nullable? Json.uint8?) none
    codec := ← record.defaulted "codec" (Json.nullable? Json.string?) none }

end VideoStream

namespace ReleaseGroup

/-- Writes a group. -/
def toJson (group : ReleaseGroup) : Json := .obj [
  ("id", .ofNat group.id.toNat),
  ("short_name", .str group.shortName),
  ("long_name", .str group.longName)]

/-- Reads a group. -/
def ofJson? (value : Json) : Option ReleaseGroup := do
  let record ← Json.Record.ofJson? ["id", "short_name", "long_name"] value
  return {
    id := ← record.required "id" Json.uint64?
    shortName := ← record.defaulted "short_name" Json.string? ""
    longName := ← record.defaulted "long_name" Json.string? "" }

end ReleaseGroup

namespace Release

/-- Writes a release. -/
def toJson (release : Release) : Json := .obj [
  ("id", .ofNat release.id.toNat),
  ("group", Json.ofOption ReleaseGroup.toJson release.group),
  ("version", .ofNat release.version.toNat),
  ("source", .str release.source.text),
  ("censored", .bool release.censored),
  ("deprecated", .bool release.deprecated),
  ("comment", .str release.comment),
  ("original_file_name", Json.ofOption .str release.originalFileName),
  ("audio_languages", Json.ofList .str release.audioLanguages),
  ("subtitle_languages", Json.ofList .str release.subtitleLanguages)]

/-- Reads a release. -/
def ofJson? (value : Json) : Option Release := do
  let record ← Json.Record.ofJson?
    ["id", "group", "version", "source", "censored", "deprecated", "comment",
      "original_file_name", "audio_languages", "subtitle_languages"] value
  return {
    id := ← record.required "id" Json.uint64?
    group := ← record.defaulted "group" (Json.nullable? ReleaseGroup.ofJson?) none
    version := ← record.defaulted "version" Json.uint32? 1
    source := ← record.defaulted "source" (Json.spelled? Source.read) .unknown
    censored := ← record.defaulted "censored" Json.bool? false
    deprecated := ← record.defaulted "deprecated" Json.bool? false
    comment := ← record.defaulted "comment" Json.string? ""
    originalFileName := ←
      record.defaulted "original_file_name" (Json.nullable? Json.string?) none
    audioLanguages := ← record.defaulted "audio_languages" (Json.list? Json.string?) []
    subtitleLanguages := ← record.defaulted "subtitle_languages" (Json.list? Json.string?) [] }

end Release

namespace MediaFile

/-- Writes a file. -/
def toJson (file : MediaFile) : Json := .obj [
  ("id", .ofNat file.id.toNat),
  ("file_name", .str file.fileName),
  ("hash", .str file.hash),
  ("crc32", Json.ofOption .str file.crc32),
  ("size", .ofNat file.size.toNat),
  ("video", Json.ofOption VideoStream.toJson file.video),
  ("audio_codecs", Json.ofList .str file.audioCodecs),
  ("audio_languages", Json.ofList .str file.audioLanguages),
  ("subtitle_languages", Json.ofList .str file.subtitleLanguages),
  ("manually_linked", .bool file.manuallyLinked),
  ("locations", Json.ofList Location.toJson file.locations),
  ("catalog", Json.ofOption Release.toJson file.release)]

/-- Reads a file. -/
def ofJson? (value : Json) : Option MediaFile := do
  let record ← Json.Record.ofJson?
    ["id", "file_name", "hash", "crc32", "size", "video", "audio_codecs", "audio_languages",
      "subtitle_languages", "manually_linked", "locations", "catalog"] value
  return {
    id := ← record.required "id" Json.uint64?
    fileName := ← record.required "file_name" Json.string?
    hash := ← record.required "hash" Json.string?
    crc32 := ← record.defaulted "crc32" (Json.nullable? Json.string?) none
    size := ← record.required "size" Json.uint64?
    video := ← record.defaulted "video" (Json.nullable? VideoStream.ofJson?) none
    audioCodecs := ← record.defaulted "audio_codecs" (Json.list? Json.string?) []
    audioLanguages := ← record.defaulted "audio_languages" (Json.list? Json.string?) []
    subtitleLanguages := ← record.defaulted "subtitle_languages" (Json.list? Json.string?) []
    manuallyLinked := ← record.defaulted "manually_linked" Json.bool? false
    locations := ← record.defaulted "locations" (Json.list? Location.ofJson?) []
    release := ← record.defaulted "catalog" (Json.nullable? Release.ofJson?) none }

end MediaFile

namespace CrossReference

/-- Writes a cross reference. -/
def toJson (reference : CrossReference) : Json := .obj [
  ("file_hash", .str reference.fileHash),
  ("episode_id", .ofNat reference.episodeId.toNat),
  ("show_id", .ofNat reference.showId.toNat)]

/-- Reads a cross reference. -/
def ofJson? (value : Json) : Option CrossReference := do
  let record ← Json.Record.ofJson? ["file_hash", "episode_id", "show_id"] value
  return {
    fileHash := ← record.required "file_hash" Json.string?
    episodeId := ← record.required "episode_id" Json.uint64?
    showId := ← record.required "show_id" Json.uint64? }

end CrossReference

namespace Folder

/-- Writes a folder. -/
def toJson (folder : Folder) : Json := .obj [
  ("id", .ofNat folder.id.toNat),
  ("path", .str folder.path.text),
  ("is_drop_source", .bool folder.isDropSource),
  ("is_drop_destination", .bool folder.isDropDestination),
  ("is_watched", .bool folder.isWatched),
  ("is_excluded_from_placement", .bool folder.isExcludedFromPlacement)]

/-- Reads a folder. -/
def ofJson? (value : Json) : Option Folder := do
  let record ← Json.Record.ofJson?
    ["id", "path", "is_drop_source", "is_drop_destination", "is_watched",
      "is_excluded_from_placement"] value
  return {
    id := ← record.required "id" Json.uint64?
    path := ⟨← record.required "path" Json.string?⟩
    isDropSource := ← record.defaulted "is_drop_source" Json.bool? false
    isDropDestination := ← record.defaulted "is_drop_destination" Json.bool? false
    isWatched := ← record.defaulted "is_watched" Json.bool? false
    isExcludedFromPlacement := ← record.defaulted "is_excluded_from_placement" Json.bool? false }

end Folder

namespace Snapshot

/-- Writes a snapshot. -/
def toJson (s : Snapshot) : Json := .obj [
  ("shows", Json.ofList Show.toJson s.shows),
  ("series", Json.ofList Series.toJson s.series),
  ("episodes", Json.ofList Episode.toJson s.episodes),
  ("files", Json.ofList MediaFile.toJson s.files),
  ("cross_references", Json.ofList CrossReference.toJson s.crossReferences),
  ("folders", Json.ofList Folder.toJson s.folders)]

/-- Reads a snapshot. -/
def ofJson? (value : Json) : Option Snapshot := do
  let record ← Json.Record.ofJson?
    ["shows", "series", "episodes", "files", "cross_references", "folders"] value
  return {
    shows := ← record.defaulted "shows" (Json.list? Show.ofJson?) []
    series := ← record.defaulted "series" (Json.list? Series.ofJson?) []
    episodes := ← record.defaulted "episodes" (Json.list? Episode.ofJson?) []
    files := ← record.defaulted "files" (Json.list? MediaFile.ofJson?) []
    crossReferences := ← record.defaulted "cross_references" (Json.list? CrossReference.ofJson?) []
    folders := ← record.defaulted "folders" (Json.list? Folder.ofJson?) [] }

end Snapshot

end MediaShelf
