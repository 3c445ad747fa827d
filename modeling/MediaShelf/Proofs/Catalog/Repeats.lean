import MediaShelf.Proofs.Catalog.Links
import Mathlib.Data.List.Basic

/-!
# Episodes that are listed twice

The list of a file's episodes is made in two steps: the linked episodes are put in order, and then
every episode that repeats its neighbour is dropped. The second step looks at ids, the first one at
shows and numbers, and nothing makes equal ids neighbours where the order ties. So the list holds
what it should, in the order in which it should, but it may hold an episode twice.

When it does is told by the references alone. The sort keeps tied episodes as they were linked, so an
episode comes back in the list exactly if it is linked, then another one of its show and number, and
then it again (`nodup_map_dropRepeats_iff`, `sublist_mergeSort_iff`). A special and a normal episode
of one number are such a pair.
-/

namespace MediaShelf

section Repeats

variable {α κ : Type} {key : α → κ}

/-- No key comes back behind another one. -/
def NoneReturns (key : α → κ) (l : List α) : Prop :=
  ∀ x y z, [x, y, z].Sublist l → key x = key z → key y = key x

theorem noneReturns_cons_same {first next : α} (h : key next = key first) (rest : List α) :
    NoneReturns key (first :: next :: rest) ↔ NoneReturns key (first :: rest) := by
  constructor
  · intro hnone x y z hsub
    exact hnone x y z (hsub.trans ((List.sublist_cons_self next rest).cons_cons first))
  · intro hnone x y z hsub hkey
    rcases List.cons_sublist_cons'.1 hsub with hbehind | ⟨rfl, hpair⟩
    · rcases List.cons_sublist_cons'.1 hbehind with hrest | ⟨rfl, hpair⟩
      · exact hnone x y z (hrest.trans (List.sublist_cons_self first rest)) hkey
      · -- The first item stands in for its neighbour.
        rw [h] at hkey ⊢
        exact hnone first y z (hpair.cons_cons first) hkey
    · rcases List.cons_sublist_cons'.1 hpair with hrest | ⟨rfl, -⟩
      · exact hnone x y z (hrest.cons_cons x) hkey
      · exact h

theorem noneReturns_cons_other {first next : α} (h : key next ≠ key first) (rest : List α) :
    NoneReturns key (first :: next :: rest) ↔
      (∀ z ∈ rest, key z ≠ key first) ∧ NoneReturns key (next :: rest) := by
  constructor
  · intro hnone
    refine ⟨fun z hz heq => h ?_, fun x y z hsub => ?_⟩
    · have hsub := ((List.singleton_sublist.2 hz).cons_cons next).cons_cons first
      exact hnone first next z hsub heq.symm
    · exact hnone x y z (hsub.trans (List.sublist_cons_self first _))
  · rintro ⟨hgone, hnone⟩ x y z hsub hkey
    rcases List.cons_sublist_cons'.1 hsub with hbehind | ⟨rfl, hpair⟩
    · exact hnone x y z hbehind hkey
    · have hz : z ∈ rest := by
        rcases List.cons_sublist_cons'.1 hpair with hrest | ⟨-, hrest⟩
        · exact hrest.subset (List.mem_cons_of_mem y List.mem_cons_self)
        · exact hrest.subset List.mem_cons_self
      exact absurd hkey.symm (hgone z hz)

variable [DecidableEq κ]

theorem mem_map_dropRepeatsAfter {previous k : κ} (h : k ≠ previous) {l : List α} :
    k ∈ (dropRepeatsAfter key previous l).map key ↔ k ∈ l.map key := by
  simp only [List.mem_map]
  constructor
  · rintro ⟨a, ha, rfl⟩
    exact ⟨a, (dropRepeatsAfter_sublist previous l).subset ha, rfl⟩
  · rintro ⟨a, ha, rfl⟩
    exact (key_mem_of_mem_dropRepeatsAfter previous ha).resolve_left h

theorem nodup_map_dropRepeatsAfter_iff (first : α) (l : List α) :
    ((first :: dropRepeatsAfter key (key first) l).map key).Nodup ↔
      NoneReturns key (first :: l) := by
  induction l generalizing first with
  | nil =>
      refine iff_of_true (List.pairwise_singleton _ (key first)) fun x y z hsub => ?_
      have hlength := hsub.length_le
      simp only [List.length_cons, List.length_nil] at hlength
      omega
  | cons next rest ih =>
      rw [dropRepeatsAfter]
      split
      · next heq => rw [ih, noneReturns_cons_same heq]
      · next hne =>
          have hother : key first ≠ key next := Ne.symm hne
          rw [List.map_cons, List.nodup_cons, ih, noneReturns_cons_other hne]
          refine and_congr_left fun _ => ?_
          rw [List.map_cons, List.mem_cons, not_or, and_iff_right hother,
            mem_map_dropRepeatsAfter hother, List.mem_map]
          simp only [not_exists, not_and, ne_eq]

/-- What is left without repeats has every key once exactly if none comes back behind another. -/
theorem nodup_map_dropRepeats_iff {l : List α} :
    ((dropRepeats key l).map key).Nodup ↔ NoneReturns key l := by
  cases l with
  | nil => exact iff_of_true List.nodup_nil fun _ _ _ hsub => nomatch hsub
  | cons first rest => exact nodup_map_dropRepeatsAfter_iff first rest

/-- Tied items stand in a sorted list as they stood before. -/
theorem sublist_mergeSort_iff {le : α → α → Bool} {p : α → Bool} {l tied : List α}
    (htrans : ∀ a b c, le a b = true → le b c = true → le a c = true)
    (htotal : ∀ a b, (le a b || le b a) = true)
    (hties : ∀ a ∈ l, ∀ b ∈ l, p a = true → p b = true → le a b = true)
    (htied : ∀ a ∈ tied, p a = true) :
    tied.Sublist (l.mergeSort le) ↔ tied.Sublist l := by
  have hkept : tied.filter p = tied := List.filter_eq_self.2 htied
  have hfilter : ∀ other : List α, tied.Sublist other ↔ tied.Sublist (other.filter p) := by
    intro other
    constructor
    · intro h
      rw [← hkept]
      exact h.filter p
    · exact fun h => h.trans List.filter_sublist
  rw [hfilter (l.mergeSort le), filter_mergeSort htrans htotal hties, ← hfilter l]

end Repeats

namespace Snapshot

variable {s : Snapshot} {hash : String}

/-- References that link a hash to one episode have none between them that links it to another
episode of the same show and number. -/
def TiesTogether (s : Snapshot) (hash : String) : Prop :=
  ∀ x y, [x, y, x].Sublist (s.linkedEpisodes hash) →
    (y.showId, y.number) = (x.showId, x.number) → y = x

theorem sublist_linkedEpisodes_iff {x y : Episode}
    (h : (y.showId, y.number) = (x.showId, x.number)) :
    [x, y, x].Sublist ((s.linkedEpisodes hash).mergeSort comesFirst) ↔
      [x, y, x].Sublist (s.linkedEpisodes hash) := by
  refine sublist_mergeSort_iff (p := fun e => (e.showId, e.number) == (x.showId, x.number))
    comesFirst_trans comesFirst_total (fun a _ b _ ha hb => ?_) ?_
  · have htie := (beq_iff_eq.1 ha).trans (beq_iff_eq.1 hb).symm
    rw [Prod.mk.injEq] at htie
    rw [comesFirst_iff, htie.1, htie.2]
    exact Or.inr ⟨rfl, UInt32.le_refl _⟩
  · rw [Prod.mk.injEq] at h
    simp [h]

/-- Equal ids can only be kept apart in the sorted list by a tie. -/
theorem noneReturns_linkedEpisodes_iff :
    NoneReturns (·.id) ((s.linkedEpisodes hash).mergeSort comesFirst) ↔ s.TiesTogether hash := by
  have hmem : ∀ {l : List Episode}, l.Sublist ((s.linkedEpisodes hash).mergeSort comesFirst) →
      ∀ e ∈ l, e ∈ s.linkedEpisodes hash := fun hsub e he =>
    List.mem_mergeSort.1 (hsub.subset he)
  constructor
  · intro hnone x y hsub htie
    have hsorted := (sublist_linkedEpisodes_iff htie).2 hsub
    exact eq_of_mem_linkedEpisodes (hmem hsorted y (by simp)) (hmem hsorted x (by simp))
      (hnone x y x hsorted rfl)
  · intro hties x y z hsub hid
    obtain rfl : x = z :=
      eq_of_mem_linkedEpisodes (hmem hsub x (by simp)) (hmem hsub z (by simp)) hid
    have hsorted := (List.pairwise_mergeSort comesFirst_trans comesFirst_total
      (s.linkedEpisodes hash)).sublist hsub
    simp only [List.pairwise_cons, List.mem_cons, List.not_mem_nil, or_false,
      forall_eq_or_imp, forall_eq] at hsorted
    obtain ⟨⟨hxy, -⟩, hyx, -⟩ := hsorted
    have htie := eq_of_comesFirst hyx hxy
    rw [hties x y ((sublist_linkedEpisodes_iff htie).1 hsub) htie]

theorem mem_episodesOfFile_iff {episode : Episode} :
    episode ∈ s.episodesOfFile hash ↔ episode ∈ s.linkedEpisodes hash :=
  mem_dropRepeats_mergeSort fun _ hx _ hy => eq_of_mem_linkedEpisodes hx hy

theorem exists_episode?_iff {id : UInt64} :
    (∃ episode, s.episode? id = some episode) ↔ ∃ episode ∈ s.episodes, episode.id = id := by
  rw [← Option.isSome_iff_exists, episode?, List.find?_isSome]
  simp only [beq_iff_eq]

/-- The episodes of a file are the known ones that are linked to it, by show and number. Each of them
is listed once exactly if ties stand together. -/
theorem episodesOfFile_lists_linked (s : Snapshot) (hash : String) :
    (∀ id, id ∈ (s.episodesOfFile hash).map (·.id) ↔
      (∃ episode ∈ s.episodes, episode.id = id) ∧ ∃ reference ∈ s.crossReferences,
        Text.lowerAscii reference.fileHash = Text.lowerAscii hash ∧ reference.episodeId = id) ∧
    (∀ episode ∈ s.episodesOfFile hash, s.episode? episode.id = some episode) ∧
    ((s.episodesOfFile hash).Pairwise fun x y =>
      x.showId < y.showId ∨ (x.showId = y.showId ∧ x.number ≤ y.number)) ∧
    (((s.episodesOfFile hash).map (·.id)).Nodup ↔ s.TiesTogether hash) := by
  refine ⟨fun id => ?_, fun episode hmem => ?_, ?_, ?_⟩
  · rw [← exists_episode?_iff, List.mem_map]
    simp only [mem_episodesOfFile_iff, mem_linkedEpisodes_iff]
    constructor
    · rintro ⟨episode, ⟨reference, hmem, hlink, hepisode⟩, rfl⟩
      have hid : episode.id = reference.episodeId := episode?_eq_some_id hepisode
      exact ⟨⟨episode, by rw [hid]; exact hepisode⟩, reference, hmem, hlink, hid.symm⟩
    · rintro ⟨⟨episode, hepisode⟩, reference, hmem, hlink, rfl⟩
      exact ⟨episode, ⟨reference, hmem, hlink, hepisode⟩, episode?_eq_some_id hepisode⟩
  · obtain ⟨reference, -, -, hepisode⟩ :=
      mem_linkedEpisodes_iff.1 (mem_episodesOfFile_iff.1 hmem)
    rw [episode?_eq_some_id hepisode]
    exact hepisode
  · have hsorted := List.pairwise_mergeSort comesFirst_trans comesFirst_total
      (s.linkedEpisodes hash)
    exact (hsorted.sublist (dropRepeats_sublist _)).imp comesFirst_iff.1
  · rw [← noneReturns_linkedEpisodes_iff]
    exact nodup_map_dropRepeats_iff

/-- A normal episode and a special of one number, where the first one is linked again. -/
def tiedEpisodes : Snapshot where
  episodes := [{ id := 10, showId := 1, number := 1 },
    { id := 11, showId := 1, kind := .special, number := 1 }]
  crossReferences := [⟨"aa", 10, 1⟩, ⟨"aa", 11, 1⟩, ⟨"AA", 10, 1⟩]

/-- The special stands between two mentions of the normal episode. -/
theorem not_nodup_episodesOfFile_tied :
    (tiedEpisodes.episodesOfFile "aa").map (·.id) = [10, 11, 10] ∧
      ¬ ((tiedEpisodes.episodesOfFile "aa").map (·.id)).Nodup := by
  have hids : (tiedEpisodes.episodesOfFile "aa").map (·.id) = [10, 11, 10] := by
    rw [episodesOfFile_eq_insertionSort]
    decide +kernel
  refine ⟨hids, ?_⟩
  rw [hids]
  decide

end Snapshot

end MediaShelf
