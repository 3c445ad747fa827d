import MediaShelf.Proofs.Placement.Decision
import MediaShelf.Proofs.Storage.VolumeTable

/-!
# Placement on tables of volumes

On a table, whether a directory is usable is a fact about places, volumes and bytes
(`usable_iff`): the directory is listed, none of the paths asked about is in trouble, and the folder
of the directory can take the file. What a table says about trouble and about room comes in here and
nowhere else. So tables can be compared by these facts: on tables that are alike the same directories
are usable, and with more room none stops being so (`Usable.mono`).
-/

namespace MediaShelf

/-- If silent queries are given up, every query settles. -/
theorem Filesystem.settles_of_givesUp {options : PlacementOptions} (h : options.givesUp = true)
    (filesystem : Filesystem) : filesystem.Settles options where
  isDir _ _ := h
  freeBytes _ _ := h
  sameVolume _ _ _ := h

namespace VolumeTable

/-- On a table without hanging paths every query settles, whatever the limit. -/
theorem settles_of_hanging_eq_nil {table : VolumeTable} (h : table.hanging = [])
    (options : PlacementOptions) : table.filesystem.Settles options where
  isDir _ hsilent := absurd hsilent (reply_ne_silent h (by simp))
  freeBytes _ hsilent := absurd hsilent
    (reply_ne_silent h (withVolume_ne_silent fun _ => by simp))
  sameVolume _ _ hsilent := absurd hsilent
    (reply_ne_silent h (reply_ne_silent h
      (withVolume_ne_silent fun _ => withVolume_ne_silent fun _ => by simp)))

theorem settles {table : VolumeTable} {options : PlacementOptions}
    (h : options.givesUp = true ∨ table.hanging = []) : table.filesystem.Settles options := by
  rcases h with hgives | hhanging
  · exact Filesystem.settles_of_givesUp hgives table.filesystem
  · exact settles_of_hanging_eq_nil hhanging options

/-- There is room at a place for so many bytes from another one: one volume holds both places, or the
volume that holds the first one has the bytes free. -/
def HasRoom (table : VolumeTable) (place origin : Path) (size : UInt64) : Prop :=
  ∃ volume, table.volume? place = some volume ∧
    (table.volume? origin = some volume ∨ size ≤ table.freeOn volume)

instance (table : VolumeTable) (place origin : Path) (size : UInt64) :
    Decidable (table.HasRoom place origin size) :=
  decidable_of_iff (((table.volume? place).filter fun volume =>
      decide (table.volume? origin = some volume ∨ size ≤ table.freeOn volume)).isSome) <| by
    simp only [Option.isSome_iff_exists, Option.filter_eq_some_iff, decide_eq_true_eq, HasRoom]

/-- Only the volumes of the two places count. -/
theorem HasRoom.congr {table : VolumeTable} {place other origin start : Path} {size : UInt64}
    (hplace : table.volume? other = table.volume? place)
    (horigin : table.volume? start = table.volume? origin)
    (h : table.HasRoom place origin size) : table.HasRoom other start size := by
  rw [HasRoom, hplace, horigin]
  exact h

theorem room_iff {table : VolumeTable} {place origin : Path} {size : UInt64} :
    (table.filesystem.sameVolume origin place = .answers true ∨
      (table.filesystem.sameVolume origin place = .answers false ∧
        ∃ free, table.filesystem.freeBytes place = .answers free ∧ size ≤ free)) ↔
      table.isTroubled origin = false ∧ table.isTroubled place = false ∧
        table.volume? origin ≠ none ∧ table.HasRoom place origin size := by
  simp only [sameVolume_eq_answers_iff, freeBytes_eq_answers_iff, HasRoom, ne_eq,
    Option.ne_none_iff_exists', beq_iff_eq, beq_eq_false_iff_ne]
  constructor
  · rintro (⟨horigin, hplace, here, hhere, there, hthere, heq⟩ |
      ⟨⟨horigin, hplace, here, hhere, there, hthere, -⟩, _, ⟨-, volume, hvolume, rfl⟩, hfree⟩)
    · exact ⟨horigin, hplace, ⟨here, hhere⟩, there, hthere, Or.inl (heq ▸ hhere)⟩
    · exact ⟨horigin, hplace, ⟨here, hhere⟩, volume, hvolume, Or.inr hfree⟩
  · rintro ⟨horigin, hplace, ⟨here, hhere⟩, there, hthere, hroom⟩
    by_cases heq : here = there
    · exact Or.inl ⟨horigin, hplace, here, hhere, there, hthere, heq⟩
    · refine Or.inr ⟨⟨horigin, hplace, here, hhere, there, hthere, heq⟩,
        _, ⟨hplace, there, hthere, rfl⟩, hroom.resolve_left fun hsame => ?_⟩
      exact heq (Option.some.inj (hhere.symm.trans hsame))

/-! ## Comparing tables -/

/-- Two tables with the same directories on the same volumes and the same paths in trouble, where the
second one has at least as many bytes free. -/
structure NoRoomier (a b : VolumeTable) : Prop where
  volumeAt? : ∀ place, a.volumeAt? place = b.volumeAt? place
  isTroubled : ∀ path, a.isTroubled path = b.isTroubled path
  freeOn : ∀ volume, a.freeOn volume ≤ b.freeOn volume

/-- Two tables with the same directories on the same volumes, the same free bytes and the same paths
in trouble. What kind of trouble that is does not matter. -/
structure Alike (a b : VolumeTable) : Prop where
  volumeAt? : ∀ place, a.volumeAt? place = b.volumeAt? place
  freeOn : ∀ volume, a.freeOn volume = b.freeOn volume
  isTroubled : ∀ path, a.isTroubled path = b.isTroubled path

variable {a b : VolumeTable}

theorem Alike.symm (h : a.Alike b) : b.Alike a :=
  ⟨fun place => (h.volumeAt? place).symm, fun volume => (h.freeOn volume).symm,
    fun path => (h.isTroubled path).symm⟩

theorem Alike.noRoomier (h : a.Alike b) : a.NoRoomier b :=
  ⟨h.volumeAt?, h.isTroubled, fun volume => UInt64.le_of_eq (h.freeOn volume)⟩

theorem HasRoom.mono {place origin : Path} {size smaller : UInt64} (h : a.NoRoomier b)
    (hsize : smaller ≤ size) (hroom : a.HasRoom place origin size) :
    b.HasRoom place origin smaller := by
  obtain ⟨volume, hvolume, hroom⟩ := hroom
  rw [volume?_congr h.volumeAt?] at hvolume hroom
  exact ⟨volume, hvolume, hroom.imp_right fun hfree =>
    UInt64.le_trans hsize (UInt64.le_trans hfree (h.freeOn volume))⟩

end VolumeTable

namespace Placement

theorem usable_iff {placement : Placement} {table : VolumeTable}
    (htable : placement.filesystem = table.filesystem) {folder : Folder} {directory : Path} :
    placement.Usable folder directory ↔
      (table.isTroubled directory = false ∧ table.volumeAt? directory.components ≠ none) ∧
      (placement.options.skipSpaceChecks = true ∨
        table.isTroubled placement.currentFolder.path = false ∧
        table.isTroubled folder.path = false ∧
        table.volume? placement.currentFolder.path ≠ none ∧
        table.HasRoom folder.path placement.currentFolder.path placement.file.size) := by
  rw [← VolumeTable.room_iff, ← VolumeTable.isDir_eq_answers_true_iff, ← htable]
  exact ⟨fun h => ⟨h.isDir, h.room⟩, fun h => ⟨h.1, h.2⟩⟩

/-- With more room, for a smaller file, or without a look at the room, no directory stops being
usable. -/
theorem Usable.mono {a b : VolumeTable} (htables : a.NoRoomier b) {snapshot : Snapshot}
    {options laxer : PlacementOptions} {file other : MediaFile} (hsize : other.size ≤ file.size)
    (hskip : options.skipSpaceChecks = true → laxer.skipSpaceChecks = true) {home folder : Folder}
    {here directory : Path}
    (h : (Placement.mk snapshot a.filesystem options file home here).Usable folder directory) :
    (Placement.mk snapshot b.filesystem laxer other home here).Usable folder directory := by
  -- What both tables agree on is rewritten to the first one, and the free bytes are left.
  rw [usable_iff rfl] at h
  rw [usable_iff rfl, ← htables.isTroubled, ← htables.isTroubled, ← htables.isTroubled,
    ← htables.volumeAt?, ← VolumeTable.volume?_congr htables.volumeAt?]
  obtain ⟨hdir, hroom⟩ := h
  refine ⟨hdir, hroom.imp hskip ?_⟩
  rintro ⟨hhere, hthere, hknown, hroom⟩
  exact ⟨hhere, hthere, hknown, hroom.mono htables hsize⟩

/-- Where queries settle, nothing but the fact whether a directory is usable counts. -/
theorem isUsable_congr {p q : Placement} (hp : p.filesystem.Settles p.options)
    (hq : q.filesystem.Settles q.options) {folder : Folder} {directory : Path}
    (h : p.Usable folder directory ↔ q.Usable folder directory) :
    p.isUsable folder directory = q.isUsable folder directory := by
  rw [← isUsable_eq_some_true_iff, ← isUsable_eq_some_true_iff] at h
  obtain ⟨x, hx⟩ := Option.ne_none_iff_exists'.1 (isUsable_ne_none hp folder directory)
  obtain ⟨y, hy⟩ := Option.ne_none_iff_exists'.1 (isUsable_ne_none hq folder directory)
  rw [hx, hy, Option.some.injEq, Option.some.injEq, ← Bool.eq_iff_iff] at h
  rw [hx, hy, h]

end Placement

end MediaShelf
