import MediaShelf.Proofs.Storage.VolumeTable
import Mathlib.Data.List.Nodup

/-!
# The innermost directory

A table is a map from places to volumes, and a map has no order. Looking for the deepest of the
directories that hold a path goes through the map in some order all the same, and takes the last one
of those that are equally deep. That this order cannot be seen is a fact about paths: directories
that hold one path are prefixes of it, so there are no two of one depth (`IsInnermost.sameAs`).

Hence the volume of a path depends on the map alone, and there on those directories only that hold
the path (`volume?_congr_around`). Lying on one volume is then lying in one class, and the free bytes
belong to the class.
-/

namespace MediaShelf.VolumeTable

variable {table other : VolumeTable} {path directory : Path} {entries : List (Path × UInt64)}

theorem isWithin_iff : path.isWithin directory = true ↔ directory.components <+: path.components :=
  List.isPrefixOf_iff_prefix

/-! ## Tables as maps -/

/-- Some directory of the table holds a path. -/
def Holds (table : VolumeTable) (path : Path) : Prop :=
  ∃ entry ∈ table.directories, path.isWithin entry.1 = true

/-- A list that gives each place of a table once, with its volume. -/
structure Enumerates (table : VolumeTable) (entries : List (Path × UInt64)) : Prop where
  nodup : (entries.map (·.1.components)).Nodup
  complete : ∀ place volume, (∃ entry ∈ entries, entry.1.components = place ∧ entry.2 = volume) ↔
    table.volumeAt? place = some volume

theorem volumeAt?_eq_some_iff_of_nodup (h : (table.directories.map (·.1.components)).Nodup)
    {place : List Path.Component} {volume : UInt64} :
    table.volumeAt? place = some volume ↔
      ∃ entry ∈ table.directories, entry.1.components = place ∧ entry.2 = volume := by
  rw [volumeAt?, Option.map_eq_some_iff]
  constructor
  · rintro ⟨entry, hfound, hvolume⟩
    exact ⟨entry, List.mem_reverse.1 (List.mem_of_find?_eq_some hfound),
      by simpa using List.find?_some hfound, hvolume⟩
  · rintro ⟨entry, hmem, hplace, hvolume⟩
    refine ⟨entry, ?_, hvolume⟩
    obtain ⟨found, hfound⟩ : ∃ found,
        table.directories.reverse.find? (·.1.components == place) = some found := by
      rw [← Option.isSome_iff_exists, List.find?_isSome]
      exact ⟨entry, List.mem_reverse.2 hmem, beq_iff_eq.2 hplace⟩
    have hsame : found.1.components = entry.1.components := by
      simpa [hplace] using List.find?_some hfound
    rw [hfound, List.inj_on_of_nodup_map h
      (List.mem_reverse.1 (List.mem_of_find?_eq_some hfound)) hmem hsame]

theorem Enumerates.volumeAt?_eq (h : table.Enumerates entries) (place : List Path.Component) :
    ({ table with directories := entries } : VolumeTable).volumeAt? place =
      table.volumeAt? place := by
  ext volume
  rw [volumeAt?_eq_some_iff_of_nodup h.nodup, h.complete]

theorem Enumerates.of_perm (hnodup : (table.directories.map (·.1.components)).Nodup)
    (h : entries.Perm table.directories) : table.Enumerates entries where
  nodup := (h.map _).nodup_iff.2 hnodup
  complete place volume := by
    simp only [volumeAt?_eq_some_iff_of_nodup hnodup, h.mem_iff]

/-! ## The innermost directory of a path -/

/-- A directory of the table that holds a path, with none that holds it and is longer. -/
structure IsInnermost (table : VolumeTable) (path directory : Path) : Prop where
  listed : ∃ entry ∈ table.directories, entry.1 = directory
  holds : path.isWithin directory = true
  longest : ∀ entry ∈ table.directories, path.isWithin entry.1 = true →
    entry.1.components.length ≤ directory.components.length

theorem IsInnermost.sameAs {a b : Path} (ha : table.IsInnermost path a)
    (hb : table.IsInnermost path b) : a.sameAs b = true := by
  obtain ⟨entryA, hmemA, rfl⟩ := ha.listed
  obtain ⟨entryB, hmemB, rfl⟩ := hb.listed
  have hlength := Nat.le_antisymm (hb.longest entryA hmemA ha.holds)
    (ha.longest entryB hmemB hb.holds)
  have hfront := List.prefix_of_prefix_length_le (isWithin_iff.1 ha.holds)
    (isWithin_iff.1 hb.holds) hlength.le
  exact beq_iff_eq.2 (hfront.eq_of_length hlength)

theorem volume?_eq_none_iff_not_holds : table.volume? path = none ↔ ¬ table.Holds path := by
  rw [volume?, Option.map_eq_none_iff, deepest?_eq_none_iff, holding, List.filter_eq_nil_iff, Holds]
  simp only [not_exists, not_and]

/-- The volume of a path is that of its innermost directory. -/
theorem volume?_eq_some_iff_isInnermost {volume : UInt64} :
    table.volume? path = some volume ↔ ∃ directory, table.IsInnermost path directory ∧
      table.volumeAt? directory.components = some volume := by
  rw [volume?_eq_some_iff]
  constructor
  · rintro ⟨place, hplace, hvolume, hlast⟩
    obtain ⟨entry, hmem, rfl⟩ : ∃ entry ∈ table.directories, entry.1.components = place := by
      by_contra hnone
      rw [volumeAt?_eq_none_iff.2 fun entry hmem hsame => hnone ⟨entry, hmem, hsame⟩] at hvolume
      cases hvolume
    refine ⟨entry.1, ⟨⟨entry, hmem, rfl⟩, isWithin_iff.2 hplace, fun inner hinner hholds => ?_⟩,
      hvolume⟩
    by_contra hlonger
    exact volumeAt?_eq_none_iff.1 (hlast _ (isWithin_iff.1 hholds) (Nat.lt_of_not_le hlonger)) inner
      hinner rfl
  · rintro ⟨directory, h, hvolume⟩
    refine ⟨_, isWithin_iff.1 h.holds, hvolume, fun inner hinner hlonger => ?_⟩
    rw [volumeAt?_eq_none_iff]
    rintro entry hmem rfl
    exact Nat.not_lt.2 (h.longest entry hmem (isWithin_iff.2 hinner)) hlonger

/-- Only the directories that hold a path have a part in its volume. -/
theorem volume?_congr_around (h : ∀ directory, path.isWithin directory = true →
      other.volumeAt? directory.components = table.volumeAt? directory.components) :
    other.volume? path = table.volume? path := by
  have hplace : ∀ place, place <+: path.components →
      other.volumeAt? place = table.volumeAt? place := by
    intro place hfront
    -- A place around the path matters only if a directory lies there.
    by_cases hlisted : ∃ entry ∈ table.directories ++ other.directories, entry.1.components = place
    · obtain ⟨entry, -, rfl⟩ := hlisted
      exact h entry.1 (isWithin_iff.2 hfront)
    · have hnone : ∀ entry ∈ table.directories ++ other.directories, entry.1.components ≠ place :=
        fun entry hmem hsame => hlisted ⟨entry, hmem, hsame⟩
      rw [List.forall_mem_append] at hnone
      rw [volumeAt?_eq_none_iff.2 hnone.1, volumeAt?_eq_none_iff.2 hnone.2]
  ext volume
  rw [volume?_eq_some_iff, volume?_eq_some_iff]
  refine exists_congr fun place => and_congr_right fun hfront => ?_
  rw [hplace place hfront]
  refine and_congr_right fun _ => forall_congr' fun inner => forall_congr' fun hinner => ?_
  rw [hplace inner hinner]

/-! ## Paths on one volume -/

theorem Holds.exists_volume (h : table.Holds path) : ∃ volume, table.volume? path = some volume :=
  Option.ne_none_iff_exists'.1 fun hnone => volume?_eq_none_iff_not_holds.1 hnone h

section Untroubled

variable (hfailing : table.failing = []) (hhanging : table.hanging = [])

include hfailing hhanging

theorem isTroubled_eq_false (path : Path) : table.isTroubled path = false := by
  rw [isTroubled, hfailing, hhanging]
  rfl

theorem sameVolume_eq_answers_iff_of_untroubled {a b : Path} {same : Bool} :
    table.sameVolume a b = .answers same ↔ ∃ here, table.volume? a = some here ∧
      ∃ there, table.volume? b = some there ∧ (here == there) = same := by
  refine sameVolume_eq_answers_iff.trans ?_
  rw [and_iff_right (isTroubled_eq_false hfailing hhanging a),
    and_iff_right (isTroubled_eq_false hfailing hhanging b)]

theorem sameVolume_eq_answers_true_iff {a b : Path} :
    table.sameVolume a b = .answers true ↔
      ∃ volume, table.volume? a = some volume ∧ table.volume? b = some volume := by
  rw [sameVolume_eq_answers_iff_of_untroubled hfailing hhanging]
  constructor
  · rintro ⟨here, ha, there, hb, hsame⟩
    obtain rfl := eq_of_beq hsame
    exact ⟨here, ha, hb⟩
  · rintro ⟨volume, ha, hb⟩
    exact ⟨volume, ha, volume, hb, beq_self_eq_true volume⟩

theorem freeBytes_eq_answers {volume : UInt64} (h : table.volume? path = some volume) :
    table.freeBytes path = .answers (table.freeOn volume) :=
  freeBytes_eq_answers_iff.2 ⟨isTroubled_eq_false hfailing hhanging path, volume, h, rfl⟩

theorem sameVolume_equivalence :
    Equivalence fun a b : { path // table.Holds path } => table.sameVolume a b = .answers true := by
  simp only [sameVolume_eq_answers_true_iff hfailing hhanging]
  refine ⟨fun a => ?_, fun h => ?_, fun hab hbc => ?_⟩
  · obtain ⟨volume, hvolume⟩ := a.2.exists_volume
    exact ⟨volume, hvolume, hvolume⟩
  · obtain ⟨volume, ha, hb⟩ := h
    exact ⟨volume, hb, ha⟩
  · obtain ⟨volume, ha, hb⟩ := hab
    obtain ⟨other, hb', hc⟩ := hbc
    obtain rfl := Option.some.inj (hb.symm.trans hb')
    exact ⟨volume, ha, hc⟩

end Untroubled

/-- The volume of a path is well defined: it is that of the innermost directory around the path, in
whatever order directories are listed or gone through, and no directory elsewhere has a part in it.
Without trouble, lying on one volume is an equivalence, and paths on one volume have the same room. -/
theorem volume?_wellDefined (table : VolumeTable) (path : Path) :
    (∀ entries, (table.directories.map (·.1.components)).Nodup →
      entries.Perm table.directories →
      ({ table with directories := entries } : VolumeTable).volume? path = table.volume? path) ∧
    (∀ entries, table.Enumerates entries →
      ({ table with directories := entries } : VolumeTable).volume? path = table.volume? path) ∧
    (∀ volume, table.volume? path = some volume ↔ ∃ directory,
      table.IsInnermost path directory ∧ table.volumeAt? directory.components = some volume) ∧
    (∀ a b, table.IsInnermost path a → table.IsInnermost path b → a.sameAs b = true) ∧
    (table.volume? path = none ↔ ¬ table.Holds path) ∧
    (∀ other : VolumeTable, (∀ directory, path.isWithin directory = true →
        other.volumeAt? directory.components = table.volumeAt? directory.components) →
      other.volume? path = table.volume? path) ∧
    (table.failing = [] → table.hanging = [] →
      (∀ a b, table.Holds a → table.Holds b → ∃ same, table.sameVolume a b = .answers same) ∧
      Equivalence (fun a b : { path // table.Holds path } => table.sameVolume a b = .answers true) ∧
      ∀ a b, table.sameVolume a b = .answers true →
        ∃ free, table.freeBytes a = .answers free ∧ table.freeBytes b = .answers free) := by
  have henumerates : ∀ entries, table.Enumerates entries →
      ({ table with directories := entries } : VolumeTable).volume? path = table.volume? path :=
    fun entries h => volume?_congr h.volumeAt?_eq path
  refine ⟨fun entries hnodup hperm => henumerates entries (.of_perm hnodup hperm), henumerates,
    fun volume => volume?_eq_some_iff_isInnermost, fun a b ha hb => ha.sameAs hb,
    volume?_eq_none_iff_not_holds, fun other h => volume?_congr_around h,
    fun hfailing hhanging => ⟨fun a b ha hb => ?_, sameVolume_equivalence hfailing hhanging,
      fun a b hsame => ?_⟩⟩
  · obtain ⟨here, hhere⟩ := ha.exists_volume
    obtain ⟨there, hthere⟩ := hb.exists_volume
    exact ⟨_, (sameVolume_eq_answers_iff_of_untroubled hfailing hhanging).2
      ⟨here, hhere, there, hthere, rfl⟩⟩
  · obtain ⟨volume, ha, hb⟩ := (sameVolume_eq_answers_true_iff hfailing hhanging).1 hsame
    exact ⟨_, freeBytes_eq_answers hfailing hhanging ha, freeBytes_eq_answers hfailing hhanging hb⟩

/-- A disk that is mounted inside of another one, which also has a directory elsewhere. -/
def mountedTable : VolumeTable where
  volumes := [(1, 500), (2, 10)]
  directories := [(⟨"/a"⟩, 1), (⟨"/a/mnt"⟩, 2), (⟨"/c"⟩, 1)]

/-- Its directories in another order. -/
def turnedRound : List (Path × UInt64) :=
  [(⟨"/c"⟩, 1), (⟨"/a/mnt"⟩, 2), (⟨"/a"⟩, 1)]

/-- The table without the directory that is elsewhere. -/
def withoutElsewhere : VolumeTable :=
  { mountedTable with directories := [(⟨"/a"⟩, 1), (⟨"/a/mnt"⟩, 2)] }

theorem volume?_wellDefined_mountedTable :
    (mountedTable.directories.map (·.1.components)).Nodup ∧
      turnedRound.Perm mountedTable.directories ∧ mountedTable.Enumerates turnedRound ∧
      ({ mountedTable with directories := turnedRound } : VolumeTable).volume? ⟨"/a/mnt//x"⟩ =
        some 2 ∧
      mountedTable.IsInnermost ⟨"/a/mnt//x"⟩ ⟨"/a/mnt"⟩ ∧
      mountedTable.volume? ⟨"/a/mnt//x"⟩ = some 2 ∧
      (∀ directory, Path.isWithin ⟨"/a/mnt//x"⟩ directory = true →
        withoutElsewhere.volumeAt? directory.components =
          mountedTable.volumeAt? directory.components) ∧
      withoutElsewhere.volume? ⟨"/a/mnt//x"⟩ = some 2 ∧
      mountedTable.failing = [] ∧ mountedTable.hanging = [] ∧
      mountedTable.Holds ⟨"/a/b"⟩ ∧ mountedTable.Holds ⟨"/c"⟩ ∧
      mountedTable.sameVolume ⟨"/a/b"⟩ ⟨"/c"⟩ = .answers true ∧
      ∃ free, mountedTable.freeBytes ⟨"/a/b"⟩ = .answers free ∧
        mountedTable.freeBytes ⟨"/c"⟩ = .answers free := by
  obtain ⟨hperm, -, hvolume, -, -, haround, hroom⟩ :=
    volume?_wellDefined mountedTable ⟨"/a/mnt//x"⟩
  obtain ⟨-, -, hfree⟩ := hroom rfl rfl
  have hnodup : (mountedTable.directories.map (·.1.components)).Nodup := by decide
  have hturned : turnedRound.Perm mountedTable.directories := by decide
  have hinnermost : mountedTable.IsInnermost ⟨"/a/mnt//x"⟩ ⟨"/a/mnt"⟩ :=
    ⟨⟨(⟨"/a/mnt"⟩, 2), by decide, rfl⟩, by decide, by decide⟩
  have hsome : mountedTable.volume? ⟨"/a/mnt//x"⟩ = some 2 :=
    (hvolume 2).2 ⟨_, hinnermost, by decide⟩
  have hagree : ∀ directory, Path.isWithin ⟨"/a/mnt//x"⟩ directory = true →
      withoutElsewhere.volumeAt? directory.components =
        mountedTable.volumeAt? directory.components := by
    intro directory hwithin
    have hne : (Path.mk "/c").components ≠ directory.components := by
      intro heq
      rw [isWithin_iff, ← heq] at hwithin
      exact absurd hwithin (by decide)
    simp [volumeAt?, withoutElsewhere, mountedTable, hne]
  have hsame : mountedTable.sameVolume ⟨"/a/b"⟩ ⟨"/c"⟩ = .answers true := by decide
  exact ⟨hnodup, hturned, .of_perm hnodup hturned, (hperm _ hnodup hturned).trans hsome, hinnermost,
    hsome, hagree, (haround _ hagree).trans hsome, rfl, rfl, ⟨_, List.mem_cons_self, by decide⟩,
    ⟨(⟨"/c"⟩, 1), by decide, by decide⟩, hsame, hfree _ _ hsame⟩

end MediaShelf.VolumeTable
