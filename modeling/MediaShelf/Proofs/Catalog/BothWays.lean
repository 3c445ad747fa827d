import MediaShelf.Proofs.Catalog.Repeats
import Mathlib.Data.Finset.Dedup
import Mathlib.Data.List.Forall2

/-!
# Links from both ends

A link between a file and an episode can be asked for at either end, and the two questions are
answered in different ways. The episodes of a file are found by comparing its hash with that of each
reference, and then looked up; the files of an episode are those whose hash is in the set of hashes
of its references, all of them in small letters. `Snapshot.Links` says what both of them look for: a
reference to the episode whose hash has the letters of the file's hash, place by place.

The lookup is what can break the agreement. An id that no episode has is never found from the end of
the file, so the two ends agree on the ids that exist. And asking at the end of the episode leaves
the list of files as it is, apart from what it drops, so a record that is stored twice is there twice.
-/

namespace MediaShelf

namespace Text

/-- The same letters place by place, whatever the case of each of them. -/
def SameLetters (a b : String) : Prop :=
  List.Forall₂ (fun x y => sameLetter x y = true) a.toList b.toList

theorem lowerAscii_eq_iff {a b : String} : lowerAscii a = lowerAscii b ↔ SameLetters a b := by
  rw [lowerAscii, lowerAscii, String.ofList_inj, ← List.forall₂_eq_eq_eq, List.forall₂_map_left_iff,
    List.forall₂_map_right_iff]
  simp only [SameLetters, sameLetter, beq_iff_eq]

end Text

namespace Snapshot

variable {s : Snapshot} {hash hash' : String} {id : UInt64}

/-- Some reference links a hash to an episode. -/
def Links (s : Snapshot) (hash : String) (id : UInt64) : Prop :=
  ∃ reference ∈ s.crossReferences,
    Text.SameLetters reference.fileHash hash ∧ reference.episodeId = id

theorem links_congr (h : Text.SameLetters hash hash') : s.Links hash id ↔ s.Links hash' id := by
  simp only [Links, ← Text.lowerAscii_eq_iff] at h ⊢
  rw [h]

/-! ## From the end of the file -/

theorem mem_linkedEpisodes_iff_links {episode : Episode} :
    episode ∈ s.linkedEpisodes hash ↔
      s.Links hash episode.id ∧ s.episode? episode.id = some episode := by
  rw [mem_linkedEpisodes_iff]
  simp only [Links, ← Text.lowerAscii_eq_iff]
  constructor
  · rintro ⟨reference, hmem, hlink, hepisode⟩
    have hid : episode.id = reference.episodeId := episode?_eq_some_id hepisode
    exact ⟨⟨reference, hmem, hlink, hid.symm⟩, by rw [hid]; exact hepisode⟩
  · rintro ⟨⟨reference, hmem, hlink, hid⟩, hepisode⟩
    exact ⟨reference, hmem, hlink, by rw [← hid] at hepisode; exact hepisode⟩

/-- An id is found from the end of the file if it exists and is linked. -/
theorem mem_ids_episodesOfFile_iff (hexists : ∃ episode ∈ s.episodes, episode.id = id) :
    id ∈ (s.episodesOfFile hash).map (·.id) ↔ s.Links hash id := by
  rw [List.mem_map]
  simp only [mem_episodesOfFile_iff, mem_linkedEpisodes_iff_links]
  constructor
  · rintro ⟨episode, ⟨hlinks, -⟩, rfl⟩
    exact hlinks
  · intro hlinks
    obtain ⟨episode, hepisode⟩ := exists_episode?_iff.2 hexists
    obtain rfl := episode?_eq_some_id hepisode
    exact ⟨episode, ⟨hlinks, hepisode⟩, rfl⟩

/-! ## From the end of the episode -/

/-- The hashes that are linked to an episode, in small letters. -/
def linkedHashes (s : Snapshot) (id : UInt64) : Finset String :=
  ((s.referencesTo id).map fun reference => Text.lowerAscii reference.fileHash).toFinset

theorem mem_linkedHashes_iff : Text.lowerAscii hash ∈ s.linkedHashes id ↔ s.Links hash id := by
  simp only [linkedHashes, List.mem_toFinset, List.mem_map, referencesTo, List.mem_filter, beq_iff_eq,
    Text.lowerAscii_eq_iff, Links]
  exact exists_congr fun reference => by rw [and_assoc, and_comm (a := reference.episodeId = id)]

theorem filesOfEpisode_eq_filter (s : Snapshot) (id : UInt64) :
    s.filesOfEpisode id = s.files.filter (Text.lowerAscii ·.hash ∈ s.linkedHashes id) := by
  rw [filesOfEpisode]
  refine List.filter_congr fun file _ => ?_
  rw [Bool.eq_iff_iff, decide_eq_true_eq, linkedHashes, List.mem_toFinset, List.mem_map,
    List.any_eq_true]
  simp only [CrossReference.links_iff]
  rfl

theorem mem_filesOfEpisode_iff {file : MediaFile} :
    file ∈ s.filesOfEpisode id ↔ file ∈ s.files ∧ s.Links file.hash id := by
  rw [filesOfEpisode_eq_filter, List.mem_filter, decide_eq_true_eq, mem_linkedHashes_iff]

theorem count_filesOfEpisode {file : MediaFile} (h : s.Links file.hash id) :
    (s.filesOfEpisode id).count file = s.files.count file := by
  rw [filesOfEpisode_eq_filter, List.count_filter]
  exact decide_eq_true (mem_linkedHashes_iff.2 h)

/-- A file of the catalog is among the files of an existing episode exactly if the episode is among
those of the file, in whatever case the hash is asked for. The files of an episode come as they are
stored, each as often as it is, and they are those that are linked. -/
theorem files_and_episodes_agree (s : Snapshot) (id : UInt64) :
    (∀ file ∈ s.files, (∃ episode ∈ s.episodes, episode.id = id) →
      ∀ hash, Text.SameLetters hash file.hash →
        (id ∈ (s.episodesOfFile hash).map (·.id) ↔ file ∈ s.filesOfEpisode id)) ∧
    (s.filesOfEpisode id).Sublist s.files ∧
    ∀ file, (s.Links file.hash id → (s.filesOfEpisode id).count file = s.files.count file) ∧
      (¬ s.Links file.hash id → file ∉ s.filesOfEpisode id) := by
  refine ⟨fun file hfile hexists hash hsame => ?_, ?_, fun file =>
    ⟨count_filesOfEpisode, fun hnone hmem => hnone (mem_filesOfEpisode_iff.1 hmem).2⟩⟩
  · rw [mem_ids_episodesOfFile_iff hexists, links_congr hsame, mem_filesOfEpisode_iff,
      and_iff_right hfile]
  · rw [filesOfEpisode_eq_filter]
    exact List.filter_sublist

/-- A record that gets into a catalog twice. -/
def storedCopy : MediaFile :=
  { id := 1, fileName := "a.mkv", hash := "aB", size := 10 }

/-- A file that stands between the two. -/
def otherFile : MediaFile :=
  { id := 2, fileName := "b.mkv", hash := "bb", size := 10 }

/-- A catalog with a record that is stored twice, and with a reference to an unknown episode. -/
def storedTwice : Snapshot where
  episodes := [{ id := 10, showId := 1, number := 1 }]
  files := [storedCopy, otherFile, storedCopy]
  crossReferences := [⟨"AB", 10, 1⟩, ⟨"ab", 10, 1⟩, ⟨"bb", 11, 1⟩]

theorem files_and_episodes_agree_storedTwice :
    storedCopy ∈ storedTwice.files ∧ (∃ episode ∈ storedTwice.episodes, episode.id = 10) ∧
      Text.SameLetters "Ab" storedCopy.hash ∧ storedTwice.Links storedCopy.hash 10 ∧
      ¬ storedTwice.Links otherFile.hash 10 ∧
      10 ∈ (storedTwice.episodesOfFile "Ab").map (·.id) ∧
      storedCopy ∈ storedTwice.filesOfEpisode 10 ∧
      (storedTwice.filesOfEpisode 10).count storedCopy = 2 ∧
      otherFile ∉ storedTwice.filesOfEpisode 10 := by
  obtain ⟨hagree, -, hcount⟩ := files_and_episodes_agree storedTwice 10
  have hmem : storedCopy ∈ storedTwice.files := by decide
  have hexists : ∃ episode ∈ storedTwice.episodes, episode.id = 10 := by decide
  have hsame : Text.SameLetters "Ab" storedCopy.hash := Text.lowerAscii_eq_iff.1 (by decide)
  have hlinks : storedTwice.Links storedCopy.hash 10 :=
    ⟨⟨"AB", 10, 1⟩, by decide, Text.lowerAscii_eq_iff.1 (by decide), rfl⟩
  have hother : ¬ storedTwice.Links otherFile.hash 10 := by
    simp only [Links, ← Text.lowerAscii_eq_iff]
    decide
  have hids : (storedTwice.episodesOfFile "Ab").map (·.id) = [10] := by
    rw [episodesOfFile_eq_insertionSort]
    decide +kernel
  have hepisode : 10 ∈ (storedTwice.episodesOfFile "Ab").map (·.id) := by
    rw [hids]
    exact List.mem_singleton_self 10
  exact ⟨hmem, hexists, hsame, hlinks, hother, hepisode,
    (hagree storedCopy hmem hexists "Ab" hsame).1 hepisode, (hcount storedCopy).1 hlinks,
    (hcount otherFile).2 hother⟩

end Snapshot

end MediaShelf
