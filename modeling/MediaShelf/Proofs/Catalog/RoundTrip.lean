import MediaShelf.Catalog.Codec
import MediaShelf.Proofs.Date
import MediaShelf.Proofs.Json.Omission

/-!
# Snapshots survive being written

A snapshot that is written and read again is the same snapshot, and so it is if any of the fields
that stand at their defaults are left out of what was written.

Each record has its shape, the table of its fields with the values that they may be left out for.
That a table and the reader of the record agree on the defaults, and the writer and the reader on
the names and the spellings, is what restoring the record says. The tables are put together as the
records are, so the statement for snapshots covers all the records inside.
-/

namespace MediaShelf

open Json (Field Shape Restores OmitsDefaults)

/-! ## Values without fields -/

namespace Json

theorem restores_bool : Restores .leaf Json.bool bool? :=
  .leaf (fun _ => rfl) .bool

theorem restores_string : Restores .leaf Json.str string? :=
  .leaf (fun _ => rfl) .str

theorem intIn?_ofNat {range : Text.NumberRange} {n : Nat} (hleast : range.least ≤ n)
    (hgreatest : n ≤ range.greatest) : intIn? range (.ofNat n) = some (n : Int) :=
  Option.filter_some_pos (Text.NumberRange.holds_iff.2 ⟨hleast, hgreatest⟩)

/-- Numbers of some width are restored if all of them are in the range of the reader. -/
theorem restores_number {α : Type} {toNat : α → Nat} {ofNat : Nat → α} {range : Text.NumberRange}
    (hleast : range.least ≤ 0) (hgreatest : ∀ a, (toNat a : Int) ≤ range.greatest)
    (hback : ∀ a, ofNat (toNat a) = a) :
    Restores .leaf (fun a => Json.ofNat (toNat a))
      fun value => (intIn? range value).map fun n => ofNat n.toNat := by
  refine .leaf (fun a => ?_) fun a => isPlain_ofNat (toNat a)
  have hin := intIn?_ofNat (Int.le_trans hleast (Int.natCast_nonneg _)) (hgreatest a)
  rw [hin, Option.map_some, Int.toNat_natCast, hback]

theorem restores_uint64 : Restores .leaf (fun n : UInt64 => Json.ofNat n.toNat) uint64? := by
  refine restores_number (Int.le_refl 0) (fun n => ?_) fun _ => UInt64.ofNat_toNat
  have hless := n.toNat_lt
  show (n.toNat : Int) ≤ 18446744073709551615
  omega

theorem restores_uint32 : Restores .leaf (fun n : UInt32 => Json.ofNat n.toNat) uint32? := by
  refine restores_number (Int.le_refl 0) (fun n => ?_) fun _ => UInt32.ofNat_toNat
  have hless := n.toNat_lt
  show (n.toNat : Int) ≤ 4294967295
  omega

theorem restores_uint8 : Restores .leaf (fun n : UInt8 => Json.ofNat n.toNat) uint8? := by
  refine restores_number (Int.le_refl 0) (fun n => ?_) fun _ => UInt8.ofNat_toNat
  have hless := n.toNat_lt
  show (n.toNat : Int) ≤ 255
  omega

end Json

/-- A kind is restored if its canonical text is one of its spellings. -/
theorem Json.restores_spelled {α : Type} {text : α → String}
    {read : String → Except SpellingError α} (hread : ∀ kind, read (text kind) = .ok kind) :
    Restores .leaf (fun kind => .str (text kind)) (spelled? read) := by
  refine .leaf (fun kind => ?_) fun kind => .str (text kind)
  rw [spelled?, string?, Option.bind_some, hread]
  rfl

theorem Source.restores : Restores .leaf (fun kind => .str (text kind)) (Json.spelled? read) :=
  Json.restores_spelled fun kind => by cases kind <;> rfl

theorem ShowKind.restores : Restores .leaf (fun kind => .str (text kind)) (Json.spelled? read) :=
  Json.restores_spelled fun kind => by cases kind <;> rfl

theorem EpisodeKind.restores : Restores .leaf (fun kind => .str (text kind)) (Json.spelled? read) :=
  Json.restores_spelled fun kind => by cases kind <;> rfl

theorem TitleKind.restores : Restores .leaf toJson ofJson? :=
  .leaf (fun kind => by cases kind <;> rfl) fun kind => .str kind.text

theorem Date.restores : Restores .leaf toJson ofJson? :=
  .leaf ofJson?_toJson fun date => .str date.render

/-! ## Records -/

/-- The fields of a title. -/
def Title.shape : Shape := .record [
  .always "language" .leaf,
  .unless "kind" (TitleKind.toJson .synonym) .leaf,
  .always "value" .leaf]

theorem Title.restores : Restores shape toJson ofJson? where
  read_left {title left} homits := by
    rw [ofJson?]
    refine homits.bind_record rfl rfl (by decide) fun record hgives => ?_
    simp only [List.forall₂_cons] at hgives
    obtain ⟨hlanguage, hkind, hvalue, -⟩ := hgives
    simp only [Json.restores_string.required hlanguage, TitleKind.restores.defaulted .synonym hkind,
      Json.restores_string.required hvalue, Option.bind_eq_bind, Option.bind_some]
    rfl
  isPlain_write title := by simp [toJson, TitleKind.restores.isPlain_write]

/-- The fields of a show. -/
def Show.shape : Shape := .record [
  .always "id" .leaf,
  .unless "kind" (.str ShowKind.unknown.text) .leaf,
  .unless "air_date" .null .leaf,
  .unless "titles" (.arr []) (.list Title.shape),
  .unless "episode_count_normal" (.ofNat 0) .leaf,
  .unless "episode_count_special" (.ofNat 0) .leaf]

theorem Show.restores : Restores shape toJson ofJson? where
  read_left {s left} homits := by
    rw [ofJson?]
    refine homits.bind_record rfl rfl (by decide) fun record hgives => ?_
    simp only [List.forall₂_cons] at hgives
    obtain ⟨hid, hkind, hairDate, htitles, hnormal, hspecial, -⟩ := hgives
    simp only [Json.restores_uint64.required hid, ShowKind.restores.defaulted .unknown hkind,
      (Date.restores.nullable rfl).defaulted none hairDate,
      Title.restores.list.defaulted [] htitles, Json.restores_uint32.defaulted 0 hnormal,
      Json.restores_uint32.defaulted 0 hspecial, Option.bind_eq_bind, Option.bind_some]
    rfl
  isPlain_write s := by simp [toJson, Date.restores.isPlain_write, Title.restores.isPlain_write]

/-- The fields of a series. -/
def Series.shape : Shape := .record [
  .always "id" .leaf,
  .always "show_id" .leaf,
  .always "name" .leaf]

theorem Series.restores : Restores shape toJson ofJson? where
  read_left {series left} homits := by
    rw [ofJson?]
    refine homits.bind_record rfl rfl (by decide) fun record hgives => ?_
    simp only [List.forall₂_cons] at hgives
    obtain ⟨hid, hshowId, hname, -⟩ := hgives
    simp only [Json.restores_uint64.required hid, Json.restores_uint64.required hshowId,
      Json.restores_string.required hname, Option.bind_eq_bind, Option.bind_some]
    rfl
  isPlain_write series := by simp [toJson]

/-- The fields of an episode. -/
def Episode.shape : Shape := .record [
  .always "id" .leaf,
  .always "show_id" .leaf,
  .unless "kind" (.str EpisodeKind.normal.text) .leaf,
  .always "number" .leaf,
  .unless "air_date" .null .leaf,
  .unless "titles" (.arr []) (.list Title.shape)]

theorem Episode.restores : Restores shape toJson ofJson? where
  read_left {episode left} homits := by
    rw [ofJson?]
    refine homits.bind_record rfl rfl (by decide) fun record hgives => ?_
    simp only [List.forall₂_cons] at hgives
    obtain ⟨hid, hshowId, hkind, hnumber, hairDate, htitles, -⟩ := hgives
    simp only [Json.restores_uint64.required hid, Json.restores_uint64.required hshowId,
      EpisodeKind.restores.defaulted .normal hkind, Json.restores_uint32.required hnumber,
      (Date.restores.nullable rfl).defaulted none hairDate,
      Title.restores.list.defaulted [] htitles, Option.bind_eq_bind, Option.bind_some]
    rfl
  isPlain_write episode := by simp [toJson, Date.restores.isPlain_write,
    Title.restores.isPlain_write]

/-- The fields of a location. -/
def Location.shape : Shape := .record [
  .always "folder_id" .leaf,
  .always "relative_path" .leaf]

theorem Location.restores : Restores shape toJson ofJson? where
  read_left {location left} homits := by
    rw [ofJson?]
    refine homits.bind_record rfl rfl (by decide) fun record hgives => ?_
    simp only [List.forall₂_cons] at hgives
    obtain ⟨hfolderId, hpath, -⟩ := hgives
    simp only [Json.restores_uint64.required hfolderId, Json.restores_string.required hpath,
      Option.bind_eq_bind, Option.bind_some]
    rfl
  isPlain_write location := by simp [toJson]

/-- The fields of the pictures of a file. -/
def VideoStream.shape : Shape := .record [
  .always "width" .leaf,
  .always "height" .leaf,
  .unless "bit_depth" .null .leaf,
  .unless "codec" .null .leaf]

theorem VideoStream.restores : Restores shape toJson ofJson? where
  read_left {video left} homits := by
    rw [ofJson?]
    refine homits.bind_record rfl rfl (by decide) fun record hgives => ?_
    simp only [List.forall₂_cons] at hgives
    obtain ⟨hwidth, hheight, hbitDepth, hcodec, -⟩ := hgives
    simp only [Json.restores_uint32.required hwidth, Json.restores_uint32.required hheight,
      (Json.restores_uint8.nullable rfl).defaulted none hbitDepth,
      (Json.restores_string.nullable rfl).defaulted none hcodec, Option.bind_eq_bind,
      Option.bind_some]
    rfl
  isPlain_write video := by simp [toJson]

/-- The fields of a group. -/
def ReleaseGroup.shape : Shape := .record [
  .always "id" .leaf,
  .unless "short_name" (.str "") .leaf,
  .unless "long_name" (.str "") .leaf]

theorem ReleaseGroup.restores : Restores shape toJson ofJson? where
  read_left {group left} homits := by
    rw [ofJson?]
    refine homits.bind_record rfl rfl (by decide) fun record hgives => ?_
    simp only [List.forall₂_cons] at hgives
    obtain ⟨hid, hshortName, hlongName, -⟩ := hgives
    simp only [Json.restores_uint64.required hid, Json.restores_string.defaulted "" hshortName,
      Json.restores_string.defaulted "" hlongName, Option.bind_eq_bind, Option.bind_some]
    rfl
  isPlain_write group := by simp [toJson]

/-- The fields of a release. -/
def Release.shape : Shape := .record [
  .always "id" .leaf,
  .unless "group" .null ReleaseGroup.shape,
  .unless "version" (.ofNat 1) .leaf,
  .unless "source" (.str Source.unknown.text) .leaf,
  .unless "censored" (.bool false) .leaf,
  .unless "deprecated" (.bool false) .leaf,
  .unless "comment" (.str "") .leaf,
  .unless "original_file_name" .null .leaf,
  .unless "audio_languages" (.arr []) (.list .leaf),
  .unless "subtitle_languages" (.arr []) (.list .leaf)]

theorem Release.restores : Restores shape toJson ofJson? where
  read_left {release left} homits := by
    rw [ofJson?]
    refine homits.bind_record rfl rfl (by decide) fun record hgives => ?_
    simp only [List.forall₂_cons] at hgives
    obtain ⟨hid, hgroup, hversion, hsource, hcensored, hdeprecated, hcomment, horiginalFileName,
      haudio, hsubtitles, -⟩ := hgives
    simp only [Json.restores_uint64.required hid,
      (ReleaseGroup.restores.nullable rfl).defaulted none hgroup,
      Json.restores_uint32.defaulted 1 hversion, Source.restores.defaulted .unknown hsource,
      Json.restores_bool.defaulted false hcensored, Json.restores_bool.defaulted false hdeprecated,
      Json.restores_string.defaulted "" hcomment,
      (Json.restores_string.nullable rfl).defaulted none horiginalFileName,
      Json.restores_string.list.defaulted [] haudio,
      Json.restores_string.list.defaulted [] hsubtitles, Option.bind_eq_bind, Option.bind_some]
    rfl
  isPlain_write release := by simp [toJson, ReleaseGroup.restores.isPlain_write]

/-- The fields of a file. -/
def MediaFile.shape : Shape := .record [
  .always "id" .leaf,
  .always "file_name" .leaf,
  .always "hash" .leaf,
  .unless "crc32" .null .leaf,
  .always "size" .leaf,
  .unless "video" .null VideoStream.shape,
  .unless "audio_codecs" (.arr []) (.list .leaf),
  .unless "audio_languages" (.arr []) (.list .leaf),
  .unless "subtitle_languages" (.arr []) (.list .leaf),
  .unless "manually_linked" (.bool false) .leaf,
  .unless "locations" (.arr []) (.list Location.shape),
  .unless "catalog" .null Release.shape]

theorem MediaFile.restores : Restores shape toJson ofJson? where
  read_left {file left} homits := by
    rw [ofJson?]
    refine homits.bind_record rfl rfl (by decide) fun record hgives => ?_
    simp only [List.forall₂_cons] at hgives
    obtain ⟨hid, hfileName, hhash, hcrc32, hsize, hvideo, hcodecs, haudio, hsubtitles, hlinked,
      hlocations, hrelease, -⟩ := hgives
    simp only [Json.restores_uint64.required hid, Json.restores_string.required hfileName,
      Json.restores_string.required hhash,
      (Json.restores_string.nullable rfl).defaulted none hcrc32,
      Json.restores_uint64.required hsize,
      (VideoStream.restores.nullable rfl).defaulted none hvideo,
      Json.restores_string.list.defaulted [] hcodecs, Json.restores_string.list.defaulted [] haudio,
      Json.restores_string.list.defaulted [] hsubtitles, Json.restores_bool.defaulted false hlinked,
      Location.restores.list.defaulted [] hlocations,
      (Release.restores.nullable rfl).defaulted none hrelease, Option.bind_eq_bind,
      Option.bind_some]
    rfl
  isPlain_write file := by simp [toJson, VideoStream.restores.isPlain_write,
    Location.restores.isPlain_write, Release.restores.isPlain_write]

/-- The fields of a cross reference. -/
def CrossReference.shape : Shape := .record [
  .always "file_hash" .leaf,
  .always "episode_id" .leaf,
  .always "show_id" .leaf]

theorem CrossReference.restores : Restores shape toJson ofJson? where
  read_left {reference left} homits := by
    rw [ofJson?]
    refine homits.bind_record rfl rfl (by decide) fun record hgives => ?_
    simp only [List.forall₂_cons] at hgives
    obtain ⟨hfileHash, hepisodeId, hshowId, -⟩ := hgives
    simp only [Json.restores_string.required hfileHash, Json.restores_uint64.required hepisodeId,
      Json.restores_uint64.required hshowId, Option.bind_eq_bind, Option.bind_some]
    rfl
  isPlain_write reference := by simp [toJson]

/-- The fields of a folder. -/
def Folder.shape : Shape := .record [
  .always "id" .leaf,
  .always "path" .leaf,
  .unless "is_drop_source" (.bool false) .leaf,
  .unless "is_drop_destination" (.bool false) .leaf,
  .unless "is_watched" (.bool false) .leaf,
  .unless "is_excluded_from_placement" (.bool false) .leaf]

theorem Folder.restores : Restores shape toJson ofJson? where
  read_left {folder left} homits := by
    rw [ofJson?]
    refine homits.bind_record rfl rfl (by decide) fun record hgives => ?_
    simp only [List.forall₂_cons] at hgives
    obtain ⟨hid, hpath, hsource, hdestination, hwatched, hexcluded, -⟩ := hgives
    simp only [Json.restores_uint64.required hid, Json.restores_string.required hpath,
      Json.restores_bool.defaulted false hsource, Json.restores_bool.defaulted false hdestination,
      Json.restores_bool.defaulted false hwatched, Json.restores_bool.defaulted false hexcluded,
      Option.bind_eq_bind, Option.bind_some]
    rfl
  isPlain_write folder := by simp [toJson]

/-- The fields of a snapshot. -/
def Snapshot.shape : Shape := .record [
  .unless "shows" (.arr []) (.list Show.shape),
  .unless "series" (.arr []) (.list Series.shape),
  .unless "episodes" (.arr []) (.list Episode.shape),
  .unless "files" (.arr []) (.list MediaFile.shape),
  .unless "cross_references" (.arr []) (.list CrossReference.shape),
  .unless "folders" (.arr []) (.list Folder.shape)]

theorem Snapshot.restores : Restores shape toJson ofJson? where
  read_left {s left} homits := by
    rw [ofJson?]
    refine homits.bind_record rfl rfl (by decide) fun record hgives => ?_
    simp only [List.forall₂_cons] at hgives
    obtain ⟨hshows, hseries, hepisodes, hfiles, hreferences, hfolders, -⟩ := hgives
    simp only [Show.restores.list.defaulted [] hshows, Series.restores.list.defaulted [] hseries,
      Episode.restores.list.defaulted [] hepisodes, MediaFile.restores.list.defaulted [] hfiles,
      CrossReference.restores.list.defaulted [] hreferences,
      Folder.restores.list.defaulted [] hfolders, Option.bind_eq_bind, Option.bind_some]
    rfl
  isPlain_write s := by simp [toJson, Show.restores.isPlain_write, Series.restores.isPlain_write,
    Episode.restores.isPlain_write, MediaFile.restores.isPlain_write,
    CrossReference.restores.isPlain_write, Folder.restores.isPlain_write]

/-! ## Texts of snapshots -/

namespace Snapshot

/-- The snapshot that a text holds. -/
def ofText? (text : String) : Option Snapshot :=
  (Json.parse? text).bind ofJson?

/-- The text of a snapshot. -/
def render (s : Snapshot) : String :=
  s.toJson.render

/-- A snapshot is read again from what is left of its text when any defaults are left out, so from
the whole of its text too, whatever text it has been read from before. -/
theorem restored_from_text (s : Snapshot) :
    (∀ left, OmitsDefaults shape s.toJson left → ofText? left.render = some s) ∧
      ofText? s.render = some s ∧
      ∀ text, ofText? text = some s → ofText? s.render = some s := by
  have hleft : ∀ left, OmitsDefaults shape s.toJson left → ofText? left.render = some s :=
    fun left homits => restores.read_render homits
  have hwhole : ofText? s.render = some s := hleft s.toJson (.whole shape s.toJson)
  exact ⟨hleft, hwhole, fun _ _ => hwhole⟩

/-- A disc release in its first edition. -/
def firstEdition : Release where
  id := 3
  source := .bluRay

/-- A snapshot with one file, which was recognized as that release. -/
def oneRelease : Snapshot where
  files := [{ id := 1, fileName := "01.mkv", hash := "aa", size := 10, release := firstEdition }]

/-- All that has to be written of it. -/
def oneReleaseLeft : Json := .obj [
  ("files", .arr [.obj [
    ("id", .ofNat 1),
    ("file_name", .str "01.mkv"),
    ("hash", .str "aa"),
    ("size", .ofNat 10),
    ("catalog", .obj [("id", .ofNat 3), ("source", .str "Blu-ray")])]])]

theorem omits_oneRelease : OmitsDefaults shape oneRelease.toJson oneReleaseLeft := by
  have hrelease : OmitsDefaults Release.shape firstEdition.toJson
      (.obj [("id", .ofNat 3), ("source", .str "Blu-ray")]) :=
    .kept (.whole _ _) (.gone rfl (.gone rfl (.kept (.whole _ _) (.gone rfl (.gone rfl
      (.gone rfl (.gone rfl (.gone rfl (.gone rfl (.whole _ _))))))))))
  refine .gone rfl (.gone rfl (.gone rfl (.kept (.item ?_ (.whole _ _)) (.gone rfl
    (.gone rfl (.whole _ _))))))
  exact .kept (.whole _ _) (.kept (.whole _ _) (.kept (.whole _ _) (.gone rfl (.kept (.whole _ _)
    (.gone rfl (.gone rfl (.gone rfl (.gone rfl (.gone rfl (.gone rfl
      (.kept hrelease (.whole _ _))))))))))))

theorem restored_oneRelease : ofText? oneReleaseLeft.render = some oneRelease :=
  (restored_from_text oneRelease).1 oneReleaseLeft omits_oneRelease

end Snapshot

end MediaShelf
