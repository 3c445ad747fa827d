import MediaShelf.Proofs.Catalog.Order

/-!
# References as a set

Whoever uses a catalog asks it questions; the lists behind it stay hidden. `Catalog` is what there is
to learn from a snapshot: the answers to all of those questions.

References are an exception among the lists. They are only ever filtered by what they say, and what
they yield is put into an order of its own. So a reference counts through its link alone, which is
what it says without regard to the case of the hash, and it has no effect where a reference stands or
how often it is repeated (`Snapshot.SameLinks.catalog_eq`). The one thing that could leak the order is
a tie: two episodes of a file with one number in one show stay as they were listed. `TellsApart` rules
that out.
-/

namespace MediaShelf

/-- What a reference says: a hash without regard to the case of its letters, an episode and a
show. -/
def CrossReference.link (reference : CrossReference) : String × UInt64 × UInt64 :=
  (Text.lowerAscii reference.fileHash, reference.episodeId, reference.showId)

theorem CrossReference.links_iff {reference : CrossReference} {hash : String} :
    reference.links hash = true ↔ reference.link.1 = Text.lowerAscii hash := by
  rw [links, Text.sameIgnoringCase, beq_iff_eq, link]

/-- All that can be learned from a snapshot by asking it. -/
structure Catalog where
  show? : UInt64 → Option Show
  seriesOfShow? : UInt64 → Option Series
  episodesOfSeries : UInt64 → List Episode
  episodesOfFile : String → List Episode
  filesOfEpisode : UInt64 → List MediaFile
  showsOfEpisode : UInt64 → List UInt64
  folder? : UInt64 → Option Folder
  folders : List Folder

namespace Snapshot

variable {a b : Snapshot}

/-- What a snapshot answers. -/
def catalog (s : Snapshot) : Catalog where
  show? := s.show?
  seriesOfShow? := s.seriesOfShow?
  episodesOfSeries := s.episodesOfSeries
  episodesOfFile := s.episodesOfFile
  filesOfEpisode := s.filesOfEpisode
  showsOfEpisode := s.showsOfEpisode
  folder? := s.folder?
  folders := s.folders

/-- Snapshots that differ at most in how their references are listed: in which order, how often,
and in which case their hashes are written. -/
structure SameLinks (a b : Snapshot) : Prop where
  others : b = { a with crossReferences := b.crossReferences }
  links : ∀ link, link ∈ a.crossReferences.map (·.link) ↔ link ∈ b.crossReferences.map (·.link)

/-- Different episodes that are linked to a hash differ in their show or in their number. -/
def TellsApart (s : Snapshot) (hash : String) : Prop :=
  ∀ x ∈ s.linkedEpisodes hash, ∀ y ∈ s.linkedEpisodes hash,
    x ≠ y → (x.showId, x.number) ≠ (y.showId, y.number)

/-! ## Questions about links -/

/-- A property of links that some reference has, some reference of the other snapshot has. -/
theorem SameLinks.exists_iff (h : a.SameLinks b) (p : String × UInt64 × UInt64 → Prop) :
    (∃ x ∈ a.crossReferences, p x.link) ↔ ∃ x ∈ b.crossReferences, p x.link := by
  have hlinks := h.links
  simp only [List.mem_map] at hlinks
  constructor
  · rintro ⟨x, hx, hp⟩
    obtain ⟨y, hy, heq⟩ := (hlinks x.link).1 ⟨x, hx, rfl⟩
    exact ⟨y, hy, heq ▸ hp⟩
  · rintro ⟨y, hy, hp⟩
    obtain ⟨x, hx, heq⟩ := (hlinks y.link).2 ⟨y, hy, rfl⟩
    exact ⟨x, hx, heq ▸ hp⟩

theorem episode?_eq_some_id {s : Snapshot} {id : UInt64} {episode : Episode}
    (h : s.episode? id = some episode) : episode.id = id := by
  simpa using List.find?_some h

theorem mem_linkedEpisodes_iff {s : Snapshot} {hash : String} {episode : Episode} :
    episode ∈ s.linkedEpisodes hash ↔ ∃ x ∈ s.crossReferences,
      x.link.1 = Text.lowerAscii hash ∧ s.episode? x.link.2.1 = some episode := by
  simp only [linkedEpisodes, List.mem_filterMap, List.mem_filter, CrossReference.links_iff, and_assoc]
  rfl

theorem eq_of_mem_linkedEpisodes {s : Snapshot} {hash : String} {x y : Episode}
    (hx : x ∈ s.linkedEpisodes hash) (hy : y ∈ s.linkedEpisodes hash) (h : x.id = y.id) : x = y := by
  obtain ⟨_, -, -, hx⟩ := mem_linkedEpisodes_iff.1 hx
  obtain ⟨_, -, -, hy⟩ := mem_linkedEpisodes_iff.1 hy
  rw [← episode?_eq_some_id hx, h, episode?_eq_some_id hy, hy] at hx
  exact (Option.some.inj hx).symm

theorem comesFirst_iff {x y : Episode} :
    comesFirst x y = true ↔ x.showId < y.showId ∨ (x.showId = y.showId ∧ x.number ≤ y.number) := by
  simp [comesFirst]

theorem comesFirst_trans (x y z : Episode) (hxy : comesFirst x y = true)
    (hyz : comesFirst y z = true) : comesFirst x z = true := by
  rw [comesFirst_iff, UInt64.lt_iff_toNat_lt, ← UInt64.toNat_inj, UInt32.le_iff_toNat_le] at *
  omega

theorem comesFirst_total (x y : Episode) : (comesFirst x y || comesFirst y x) = true := by
  rw [Bool.or_eq_true, comesFirst_iff, comesFirst_iff, UInt64.lt_iff_toNat_lt,
    UInt64.lt_iff_toNat_lt, ← UInt64.toNat_inj, ← UInt64.toNat_inj, UInt32.le_iff_toNat_le,
    UInt32.le_iff_toNat_le]
  omega

theorem episodesOfFile_eq_insertionSort (s : Snapshot) (hash : String) :
    s.episodesOfFile hash =
      dropRepeats (·.id) ((s.linkedEpisodes hash).insertionSort (comesFirst · ·)) :=
  congrArg _ (mergeSort_eq_insertionSort comesFirst_trans comesFirst_total (s.linkedEpisodes hash))

/-- Only episodes of one number in one show can stand in either order. -/
theorem eq_of_comesFirst {x y : Episode} (hxy : comesFirst x y = true)
    (hyx : comesFirst y x = true) : (x.showId, x.number) = (y.showId, y.number) := by
  rw [comesFirst_iff, UInt64.lt_iff_toNat_lt, ← UInt64.toNat_inj, UInt32.le_iff_toNat_le] at hxy hyx
  rw [Prod.mk.injEq, ← UInt64.toNat_inj, ← UInt32.toNat_inj]
  omega

theorem SameLinks.episodesOfFile_eq (h : a.SameLinks b) {hash : String} (happart : a.TellsApart hash) :
    a.episodesOfFile hash = b.episodesOfFile hash := by
  refine dropRepeats_mergeSort_congr comesFirst_trans comesFirst_total
    (fun x hx y hy => eq_of_mem_linkedEpisodes hx hy) (fun x hx y hy hxy hyx => ?_) fun episode => ?_
  · by_contra hne
    exact happart x hx y hy hne (eq_of_comesFirst hxy hyx)
  · have hepisode : b.episode? = a.episode? := by
      rw [h.others]
      rfl
    rw [mem_linkedEpisodes_iff, mem_linkedEpisodes_iff, hepisode]
    exact h.exists_iff fun link =>
      link.1 = Text.lowerAscii hash ∧ a.episode? link.2.1 = some episode

theorem SameLinks.filesOfEpisode_eq (h : a.SameLinks b) (episodeId : UInt64) :
    a.filesOfEpisode episodeId = b.filesOfEpisode episodeId := by
  have hfiles : b.files = a.files := by rw [h.others]
  rw [filesOfEpisode, filesOfEpisode, hfiles]
  refine List.filter_congr fun file _ => ?_
  rw [Bool.eq_iff_iff]
  simp only [List.any_eq_true, referencesTo, List.mem_filter, beq_iff_eq, CrossReference.links_iff,
    and_assoc]
  exact h.exists_iff fun link => link.2.1 = episodeId ∧ link.1 = Text.lowerAscii file.hash

theorem SameLinks.showsOfEpisode_eq (h : a.SameLinks b) (episodeId : UInt64) :
    a.showsOfEpisode episodeId = b.showsOfEpisode episodeId := by
  refine dropRepeats_mergeSort_congr (fun x y z => ?_) (fun x y => ?_) (fun x _ y _ => id)
    (fun x _ y _ hxy hyx => ?_) fun showId => ?_
  · simp only [decide_eq_true_eq]
    exact UInt64.le_trans
  · simp only [Bool.or_eq_true, decide_eq_true_eq]
    exact UInt64.le_total x y
  · exact UInt64.le_antisymm (of_decide_eq_true hxy) (of_decide_eq_true hyx)
  · simp only [List.mem_map, referencesTo, List.mem_filter, beq_iff_eq, and_assoc]
    exact h.exists_iff fun link => link.2.1 = episodeId ∧ link.2.2 = showId

/-- Snapshots with the same links answer every question in the same way, if the links of a file
never tie. -/
theorem SameLinks.catalog_eq (h : a.SameLinks b) (happart : ∀ hash, a.TellsApart hash) :
    a.catalog = b.catalog := by
  have hfile : a.episodesOfFile = b.episodesOfFile :=
    funext fun hash => h.episodesOfFile_eq (happart hash)
  have hepisode : a.filesOfEpisode = b.filesOfEpisode := funext h.filesOfEpisode_eq
  have hshows : a.showsOfEpisode = b.showsOfEpisode := funext h.showsOfEpisode_eq
  rw [catalog, catalog, hfile, hepisode, hshows, h.others]
  rfl

end Snapshot

end MediaShelf
