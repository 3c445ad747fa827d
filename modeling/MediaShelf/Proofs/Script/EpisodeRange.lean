import MediaShelf.Library.Plan
import MediaShelf.Proofs.Catalog.BothWays
import MediaShelf.Script.TokenValue
import Mathlib.Data.List.Pairwise

/-!
# The range of a file

A file that holds several episodes shows the number of the first and that of the last of them. Both
are read off the ends of the list of its episodes, and whether there is one episode or more is decided
by comparing the ids at the two ends, not by counting. That is the range of the file as long as the
episodes are a run: of one show and of one kind, with no number twice. Then the numbers never fall
along the list, so its ends bound them (`IsRun.spans`), and the ends are one episode only if there is
no other (`IsRun.existsUnique_iff`).

Which episodes a file has is told by the links alone (`Snapshot.HasEpisode`). Nothing that is said
here about a range mentions the references in another way, so it makes no difference how they are
listed and in which case their hashes are written.
-/

namespace MediaShelf

/-- A number of an episode as it is shown: the mark of the kind, and as many digits as the show's
total of that kind has. -/
def numberText (s : Show) (kind : EpisodeKind) (number : UInt32) : String :=
  kind.numberMark ++ String.ofList (Text.paddedDigits (digitCount (s.total kind)) number.toNat)

theorem episodeNumber_eq (episode : Episode) (s : Show) :
    episodeNumber episode s = numberText s episode.kind episode.number := rfl

namespace Snapshot

variable {s : Snapshot} {hash : String}

/-- An episode that is linked to a hash, as the catalog knows it. -/
def HasEpisode (s : Snapshot) (hash : String) (episode : Episode) : Prop :=
  s.Links hash episode.id ∧ s.episode? episode.id = some episode

theorem mem_episodesOfFile_iff_hasEpisode {episode : Episode} :
    episode ∈ s.episodesOfFile hash ↔ s.HasEpisode hash episode := by
  rw [mem_episodesOfFile_iff, mem_linkedEpisodes_iff_links, HasEpisode]

theorem HasEpisode.eq_of_id {a b : Episode} (ha : s.HasEpisode hash a) (hb : s.HasEpisode hash b)
    (h : a.id = b.id) : a = b := by
  obtain ⟨-, hfound⟩ := ha
  rw [h, hb.2] at hfound
  exact (Option.some.inj hfound).symm

/-- Numbers that bound those of the episodes of a hash, and that two of them have. -/
structure Spans (s : Snapshot) (hash : String) (low high : UInt32) : Prop where
  lowest : ∃ episode, s.HasEpisode hash episode ∧ episode.number = low
  highest : ∃ episode, s.HasEpisode hash episode ∧ episode.number = high
  within : ∀ episode, s.HasEpisode hash episode → low ≤ episode.number ∧ episode.number ≤ high

theorem Spans.unique {low high low' high' : UInt32} (h : s.Spans hash low high)
    (h' : s.Spans hash low' high') : low = low' ∧ high = high' := by
  obtain ⟨⟨a, ha, rfl⟩, ⟨b, hb, rfl⟩, hwithin⟩ := h
  obtain ⟨⟨c, hc, rfl⟩, ⟨d, hd, rfl⟩, hwithin'⟩ := h'
  exact ⟨UInt32.le_antisymm (hwithin c hc).1 (hwithin' a ha).1,
    UInt32.le_antisymm (hwithin' b hb).2 (hwithin d hd).2⟩

/-- There are episodes of a hash, all of one show and of one kind, and none has the number of another
one. -/
structure IsRun (s : Snapshot) (hash : String) (showId : UInt64) (kind : EpisodeKind) : Prop where
  nonempty : ∃ episode, s.HasEpisode hash episode
  oneShow : ∀ episode, s.HasEpisode hash episode → episode.showId = showId
  oneKind : ∀ episode, s.HasEpisode hash episode → episode.kind = kind
  apart : ∀ a b, s.HasEpisode hash a → s.HasEpisode hash b → a.id ≠ b.id → a.number ≠ b.number

namespace IsRun

variable {showId : UInt64} {kind : EpisodeKind} (h : s.IsRun hash showId kind)

include h

theorem eq_of_number {a b : Episode} (ha : s.HasEpisode hash a) (hb : s.HasEpisode hash b)
    (hnumber : a.number = b.number) : a = b := by
  by_contra hne
  exact h.apart a b ha hb (fun hid => hne (ha.eq_of_id hb hid)) hnumber

theorem pairwise_number : (s.episodesOfFile hash).Pairwise fun a b => a.number ≤ b.number := by
  have hsublist : (s.episodesOfFile hash).Sublist _ := dropRepeats_sublist _
  have hsorted := (List.pairwise_mergeSort comesFirst_trans comesFirst_total
    (s.linkedEpisodes hash)).sublist hsublist
  refine hsorted.imp_of_mem fun {a b} ha hb hab => ?_
  have hshow : a.showId = b.showId := by
    rw [h.oneShow a (mem_episodesOfFile_iff_hasEpisode.1 ha),
      h.oneShow b (mem_episodesOfFile_iff_hasEpisode.1 hb)]
  rw [comesFirst_iff, hshow] at hab
  exact (hab.resolve_left (UInt64.lt_irrefl _)).2

theorem exists_ends : ∃ first rest, s.episodesOfFile hash = first :: rest := by
  obtain ⟨episode, hepisode⟩ := h.nonempty
  exact List.exists_cons_of_ne_nil
    (List.ne_nil_of_mem (mem_episodesOfFile_iff_hasEpisode.2 hepisode))

/-- The ends of the list bound the numbers. -/
theorem spans {first last : Episode} (hfirst : (s.episodesOfFile hash).head? = some first)
    (hlast : (s.episodesOfFile hash).getLast? = some last) :
    s.Spans hash first.number last.number := by
  refine ⟨⟨first, ?_, rfl⟩, ⟨last, ?_, rfl⟩, fun episode hepisode => ?_⟩
  · exact mem_episodesOfFile_iff_hasEpisode.1 (List.mem_of_head? hfirst)
  · exact mem_episodesOfFile_iff_hasEpisode.1 (List.mem_of_getLast? hlast)
  · have hmem := mem_episodesOfFile_iff_hasEpisode.2 hepisode
    have hsorted := h.pairwise_number
    have hhead : (s.episodesOfFile hash).head (List.ne_nil_of_mem hmem) = first :=
      Option.some.inj ((List.head?_eq_some_head _).symm.trans hfirst)
    have hend : (s.episodesOfFile hash).getLast (List.ne_nil_of_mem hmem) = last :=
      Option.some.inj ((List.getLast?_eq_some_getLast _).symm.trans hlast)
    exact ⟨hhead ▸ hsorted.rel_head_of_rel_head_head hmem (UInt32.le_refl _),
      hend ▸ hsorted.rel_getLast_of_rel_getLast_getLast hmem (UInt32.le_refl _)⟩

/-- There is one episode only exactly if the ends are one episode. -/
theorem existsUnique_iff {first last : Episode}
    (hfirst : (s.episodesOfFile hash).head? = some first)
    (hlast : (s.episodesOfFile hash).getLast? = some last) :
    (∃! episode, s.HasEpisode hash episode) ↔ first.id = last.id := by
  have hfirst' := mem_episodesOfFile_iff_hasEpisode.1 (List.mem_of_head? hfirst)
  have hlast' := mem_episodesOfFile_iff_hasEpisode.1 (List.mem_of_getLast? hlast)
  constructor
  · rintro ⟨only, -, hunique⟩
    rw [hunique first hfirst', hunique last hlast']
  · intro hid
    obtain rfl := hfirst'.eq_of_id hlast' hid
    refine ⟨first, hfirst', fun episode hepisode => h.eq_of_number hepisode hfirst' ?_⟩
    -- No number lies between a number and itself.
    obtain ⟨hlow, hhigh⟩ := (h.spans hfirst hlast).within episode hepisode
    exact UInt32.le_antisymm hhigh hlow

end IsRun

end Snapshot

open Snapshot in
/-- A file whose episodes are a run is named after the smallest and the largest of their numbers, or
after the number of its only episode. -/
theorem episodeNumber_spans_run {snapshot : Snapshot} {file : MediaFile} {showId : UInt64}
    {kind : EpisodeKind} (h : snapshot.IsRun file.hash showId kind) :
    (snapshot.show? showId = none →
      NamingContext.ofFile snapshot file = .error (.showNotFound showId)) ∧
    ∀ s, snapshot.show? showId = some s → ∃ ctx,
      NamingContext.ofFile snapshot file = .ok ctx ∧
      (∀ library : Library, library.renameFile snapshot file =
        library.strategies.rename library.preferred ctx) ∧
      ∃ low high, snapshot.Spans file.hash low high ∧ ∀ options,
        ((∃! episode, snapshot.HasEpisode file.hash episode) →
          Token.episodeNumber.value ctx options = numberText s kind low) ∧
        ((¬ ∃! episode, snapshot.HasEpisode file.hash episode) →
          Token.episodeNumber.value ctx options =
            numberText s kind low ++ "-" ++ numberText s kind high) := by
  obtain ⟨first, rest, hlist⟩ := h.exists_ends
  have hfirst : (snapshot.episodesOfFile file.hash).head? = some first := by rw [hlist]; rfl
  have hshow : first.showId = showId :=
    h.oneShow first (mem_episodesOfFile_iff_hasEpisode.1 (List.mem_of_head? hfirst))
  refine ⟨fun hnone => ?_, fun s hsome => ?_⟩
  · simp only [NamingContext.ofFile, hlist, hshow, hnone]
  · obtain ⟨last, hlast⟩ : ∃ last, (snapshot.episodesOfFile file.hash).getLast? = some last :=
      ⟨_, List.getLast?_eq_some_getLast (List.ne_nil_of_mem (List.mem_of_head? hfirst))⟩
    have hcontext : NamingContext.ofFile snapshot file = .ok ⟨file, first :: rest, s⟩ := by
      simp only [NamingContext.ofFile, hlist, hshow, hsome]
    refine ⟨_, hcontext, fun library => by rw [Library.renameFile, hcontext], first.number,
      last.number, h.spans hfirst hlast, fun options => ?_⟩
    have hkind : ∀ episode ∈ snapshot.episodesOfFile file.hash, episode.kind = kind := fun episode
      hmem => h.oneKind episode (mem_episodesOfFile_iff_hasEpisode.1 hmem)
    rw [h.existsUnique_iff hfirst hlast]
    simp only [Token.value, NamingContext.episodeRange, NamingContext.firstEpisode?,
      NamingContext.lastEpisode?, ← hlist, hfirst, hlast, episodeNumber_eq,
      hkind first (List.mem_of_head? hfirst), hkind last (List.mem_of_getLast? hlast)]
    exact ⟨fun hid => if_pos hid, fun hid => if_neg hid⟩

/-- The episode that is found first. -/
def ninthEpisode : Episode :=
  { id := 12, showId := 1, number := 9 }

/-- The episode that is found last. -/
def lastEpisode : Episode :=
  { id := 10, showId := 1, number := 100 }

/-- A file whose hash has letters in both cases. -/
def scatteredFile : MediaFile :=
  { id := 1, fileName := "a.mkv", hash := "aB", size := 10 }

/-- A file of two episodes, which are linked in the wrong order and in several spellings; the one in
front is linked twice, and one link dangles. -/
def scatteredLinks : Snapshot where
  shows := [{ id := 1, normalEpisodes := 100 }]
  episodes := [lastEpisode, ninthEpisode]
  files := [scatteredFile]
  crossReferences := [⟨"ab", 10, 1⟩, ⟨"AB", 12, 1⟩, ⟨"Ab", 11, 1⟩, ⟨"AB", 10, 1⟩]

theorem hasEpisode_scatteredLinks {episode : Episode} :
    scatteredLinks.HasEpisode scatteredFile.hash episode ↔
      episode = ninthEpisode ∨ episode = lastEpisode := by
  have hlist : scatteredLinks.episodesOfFile scatteredFile.hash = [ninthEpisode, lastEpisode] := by
    rw [Snapshot.episodesOfFile_eq_insertionSort]
    decide +kernel
  rw [← Snapshot.mem_episodesOfFile_iff_hasEpisode, hlist, List.mem_pair]

theorem isRun_scatteredLinks : scatteredLinks.IsRun scatteredFile.hash 1 .normal := by
  refine ⟨⟨ninthEpisode, hasEpisode_scatteredLinks.2 (Or.inl rfl)⟩, fun episode h => ?_,
    fun episode h => ?_, fun a b ha hb => ?_⟩
  · rcases hasEpisode_scatteredLinks.1 h with rfl | rfl <;> rfl
  · rcases hasEpisode_scatteredLinks.1 h with rfl | rfl <;> rfl
  · rcases hasEpisode_scatteredLinks.1 ha with rfl | rfl <;>
      rcases hasEpisode_scatteredLinks.1 hb with rfl | rfl <;> decide

theorem spans_scatteredLinks : scatteredLinks.Spans scatteredFile.hash 9 100 := by
  refine ⟨⟨ninthEpisode, hasEpisode_scatteredLinks.2 (Or.inl rfl), rfl⟩,
    ⟨lastEpisode, hasEpisode_scatteredLinks.2 (Or.inr rfl), rfl⟩, fun episode h => ?_⟩
  rcases hasEpisode_scatteredLinks.1 h with rfl | rfl <;> decide

theorem episodeNumber_spans_run_scatteredLinks :
    scatteredLinks.IsRun scatteredFile.hash 1 .normal ∧ ∃ ctx,
      NamingContext.ofFile scatteredLinks scatteredFile = .ok ctx ∧
      ∀ options, Token.episodeNumber.value ctx options = "009-100" := by
  have hrun := isRun_scatteredLinks
  obtain ⟨-, hfound⟩ := episodeNumber_spans_run hrun
  obtain ⟨ctx, hctx, -, low, high, hspans, hvalue⟩ := hfound _ rfl
  obtain ⟨rfl, rfl⟩ := hspans.unique spans_scatteredLinks
  have hseveral : ¬ ∃! episode, scatteredLinks.HasEpisode scatteredFile.hash episode := by
    intro hunique
    have heq := hunique.unique (hasEpisode_scatteredLinks.2 (Or.inl rfl))
      (hasEpisode_scatteredLinks.2 (Or.inr rfl))
    exact absurd (congrArg Episode.id heq) (by decide)
  refine ⟨hrun, ctx, hctx, fun options => ?_⟩
  rw [(hvalue options).2 hseveral]
  decide +kernel

end MediaShelf
