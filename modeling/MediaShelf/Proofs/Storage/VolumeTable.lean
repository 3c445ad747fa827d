import MediaShelf.Storage.VolumeTable
import Mathlib.Data.List.Infix

/-!
# Volumes and replies of a table

A path lies on the volume of the innermost directory around it that the table lists. The lookup
takes the deepest of those entries, and among equally deep ones the last. Entries that hold one path
and are equally deep stand for one place, because the place is a prefix of the path; so only the last
entry for a place ever counts, and a table is no more than a map from places to volumes
(`volumeAt?`). That is the content of `volume?_eq_some_iff`: the lookup is told by that map alone, and
the order in which directories are listed has no part in it.

The replies are told in the same way: a query is answered exactly if no path it touches is in
trouble, and then the answer depends on the map, on the listed places and on the free bytes.
-/

namespace MediaShelf.VolumeTable

variable {table : VolumeTable} {path : Path}

/-! ## The innermost directory -/

theorem deepest?_append_singleton (entries : List (Path × UInt64)) (entry : Path × UInt64) :
    deepest? (entries ++ [entry]) =
      some ((deepest? entries).elim entry fun chosen => deeper chosen entry) := by
  cases entries with
  | nil => rfl
  | cons first rest => simp [deepest?]

theorem deepest?_eq_none_iff {entries : List (Path × UInt64)} :
    deepest? entries = none ↔ entries = [] := by
  cases entries <;> simp [deepest?]

/-- The chosen entry is the last one for its place, and no entry is deeper. -/
theorem deepest?_spec {entries : List (Path × UInt64)} {chosen : Path × UInt64}
    (h : deepest? entries = some chosen) :
    entries.reverse.find? (·.1.components == chosen.1.components) = some chosen ∧
      ∀ entry ∈ entries, entry.1.components.length ≤ chosen.1.components.length := by
  induction entries using List.reverseRecOn generalizing chosen with
  | nil => cases h
  | append_singleton entries entry ih =>
      rw [deepest?_append_singleton, Option.some.injEq] at h
      simp only [List.reverse_append, List.reverse_cons, List.reverse_nil, List.nil_append,
        List.cons_append, List.forall_mem_append, List.forall_mem_singleton]
      cases hbefore : deepest? entries with
      | none =>
          rw [hbefore] at h
          obtain rfl : entry = chosen := h
          rw [deepest?_eq_none_iff.1 hbefore]
          simp
      | some best =>
          rw [hbefore] at h
          obtain ⟨hlast, hdeepest⟩ := ih hbefore
          simp only [Option.elim_some, deeper] at h
          split at h
          · next hdepth =>
              subst h
              refine ⟨?_, hdeepest, by omega⟩
              rw [List.find?_cons_of_neg]
              · exact hlast
              · intro hsame
                rw [eq_of_beq hsame] at hdepth
                omega
          · next hdepth =>
              subst h
              exact ⟨List.find?_cons_of_pos (beq_self_eq_true _),
                fun other hother => by have := hdeepest other hother; omega, by omega⟩

/-- The volume of the directory at a place. The last entry for the place counts. -/
def volumeAt? (table : VolumeTable) (place : List Path.Component) : Option UInt64 :=
  (table.directories.reverse.find? (·.1.components == place)).map (·.2)

theorem volumeAt?_eq_none_iff {place : List Path.Component} :
    table.volumeAt? place = none ↔ ∀ entry ∈ table.directories, entry.1.components ≠ place := by
  simp [volumeAt?]

theorem listed_directories_iff :
    listed (table.directories.map (·.1)) path = true ↔
      table.volumeAt? path.components ≠ none := by
  rw [ne_eq, volumeAt?_eq_none_iff]
  simp [listed, Path.sameAs]

/-- An entry for a place around a path is among the entries that hold the path. -/
theorem volumeAt?_of_isPrefix {place : List Path.Component} (h : place <+: path.components) :
    table.volumeAt? place =
      ((table.holding path).reverse.find? (·.1.components == place)).map (·.2) := by
  rw [volumeAt?, holding, ← List.filter_reverse, List.find?_filter]
  congr 2
  funext entry
  by_cases hplace : entry.1.components = place
  · simp [hplace, Path.isWithin, h]
  · simp [hplace]

theorem volume?_eq_none_iff :
    table.volume? path = none ↔ ∀ place, place <+: path.components → table.volumeAt? place = none := by
  rw [volume?, Option.map_eq_none_iff, deepest?_eq_none_iff]
  constructor
  · intro hnone place hplace
    rw [volumeAt?_of_isPrefix hplace, hnone]
    rfl
  · intro h
    rw [List.eq_nil_iff_forall_not_mem]
    intro entry hentry
    obtain ⟨hlisted, hwithin⟩ := List.mem_filter.1 hentry
    exact volumeAt?_eq_none_iff.1 (h _ (List.isPrefixOf_iff_prefix.1 hwithin)) entry hlisted rfl

/-- What the lookup finds is registered for a place around the path, and no place further inside
is registered. -/
theorem exists_innermost {volume : UInt64} (h : table.volume? path = some volume) :
    ∃ place, place <+: path.components ∧ table.volumeAt? place = some volume ∧
      ∀ inner, inner <+: path.components → place.length < inner.length →
        table.volumeAt? inner = none := by
  obtain ⟨entry, hdeepest, rfl⟩ := Option.map_eq_some_iff.1 h
  obtain ⟨hlast, hdepth⟩ := deepest?_spec hdeepest
  have hholds : entry ∈ table.holding path :=
    List.mem_reverse.1 (List.mem_of_find?_eq_some hlast)
  have hplace : entry.1.components <+: path.components :=
    List.isPrefixOf_iff_prefix.1 (List.mem_filter.1 hholds).2
  refine ⟨_, hplace, by rw [volumeAt?_of_isPrefix hplace, hlast]; rfl, ?_⟩
  intro inner hinner hlonger
  rw [volumeAt?_of_isPrefix hinner, Option.map_eq_none_iff, List.find?_eq_none]
  intro other hother hsame
  have := hdepth other (List.mem_reverse.1 hother)
  rw [eq_of_beq hsame] at this
  omega

/-- The volume of a path is that of the innermost registered place around it. -/
theorem volume?_eq_some_iff {volume : UInt64} :
    table.volume? path = some volume ↔
      ∃ place, place <+: path.components ∧ table.volumeAt? place = some volume ∧
        ∀ inner, inner <+: path.components → place.length < inner.length →
          table.volumeAt? inner = none := by
  refine ⟨exists_innermost, ?_⟩
  rintro ⟨place, hplace, hvolume, hinnermost⟩
  cases hfound : table.volume? path with
  | none =>
      rw [volume?_eq_none_iff.1 hfound place hplace] at hvolume
      cases hvolume
  | some found =>
      obtain ⟨other, hother, hfound, hlast⟩ := exists_innermost hfound
      -- Both places are innermost, so they are equally deep around one path.
      obtain rfl : place = other := by
        rcases Nat.lt_trichotomy place.length other.length with hlt | heq | hgt
        · rw [hinnermost other hother hlt] at hfound
          cases hfound
        · exact (List.prefix_of_prefix_length_le hplace hother heq.le).eq_of_length heq
        · rw [hlast place hplace hgt] at hvolume
          cases hvolume
      exact hfound.symm.trans hvolume

/-- Tables that are one map have the same volumes everywhere. -/
theorem volume?_congr {a b : VolumeTable} (h : ∀ place, a.volumeAt? place = b.volumeAt? place)
    (path : Path) : a.volume? path = b.volume? path := by
  ext volume
  simp only [volume?_eq_some_iff, h]

/-! ## Replies -/

/-- Whether queries about a path fail or never end. -/
def isTroubled (table : VolumeTable) (path : Path) : Bool :=
  listed table.failing path || listed table.hanging path

theorem reply_eq_answers_iff {α : Type} {answer : Reply α} {a : α} :
    table.reply path answer = .answers a ↔ table.isTroubled path = false ∧ answer = .answers a := by
  rw [reply, isTroubled]
  cases listed table.hanging path <;> cases listed table.failing path <;> simp

theorem withVolume_eq_answers_iff {α : Type} {next : UInt64 → Reply α} {a : α} :
    table.withVolume path next = .answers a ↔
      ∃ volume, table.volume? path = some volume ∧ next volume = .answers a := by
  rw [withVolume]
  cases table.volume? path <;> simp

theorem isDir_eq_answers_true_iff :
    table.filesystem.isDir path = .answers true ↔
      table.isTroubled path = false ∧ table.volumeAt? path.components ≠ none := by
  rw [← listed_directories_iff]
  simp only [filesystem, isDir, reply_eq_answers_iff, Reply.answers.injEq]

theorem freeBytes_eq_answers_iff {free : UInt64} :
    table.filesystem.freeBytes path = .answers free ↔ table.isTroubled path = false ∧
      ∃ volume, table.volume? path = some volume ∧ table.freeOn volume = free := by
  simp only [filesystem, freeBytes, reply_eq_answers_iff, withVolume_eq_answers_iff,
    Reply.answers.injEq]

theorem sameVolume_eq_answers_iff {other : Path} {same : Bool} :
    table.filesystem.sameVolume path other = .answers same ↔
      table.isTroubled path = false ∧ table.isTroubled other = false ∧
        ∃ here, table.volume? path = some here ∧
          ∃ there, table.volume? other = some there ∧ (here == there) = same := by
  simp only [filesystem, sameVolume, reply_eq_answers_iff, withVolume_eq_answers_iff,
    Reply.answers.injEq]

theorem reply_ne_silent {α : Type} {answer : Reply α} (h : table.hanging = [])
    (hanswer : answer ≠ .silent) : table.reply path answer ≠ .silent := by
  have hlisted : listed table.hanging path = false := by
    rw [h]
    rfl
  rw [reply, hlisted]
  cases listed table.failing path with
  | true => simp
  | false => exact hanswer

theorem withVolume_ne_silent {α : Type} {next : UInt64 → Reply α}
    (h : ∀ volume, next volume ≠ .silent) : table.withVolume path next ≠ .silent := by
  rw [withVolume]
  cases table.volume? path with
  | some volume => exact h volume
  | none => simp

end MediaShelf.VolumeTable
