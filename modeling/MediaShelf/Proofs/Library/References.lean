import MediaShelf.Library.Plan
import MediaShelf.Library.Scripted
import MediaShelf.Proofs.Placement.Agreement
import MediaShelf.Proofs.Placement.Volumes

/-!
# Planning and the list of references

Plans depend on the catalog through its answers only. Naming takes the episodes of a file and their
show, and a strategy that places files gets a catalog to ask and nothing behind it (`AsksCatalog`;
the scripted strategy is one of these). So snapshots with the same answers lead to the same plans,
and in particular those that differ only in how their references are listed.
-/

namespace MediaShelf

/-- A strategy whose destinations depend on the answers of the catalog alone. A strategy has no other
way to look at a catalog than to ask it. -/
def Strategy.AsksCatalog (strategy : Strategy) : Prop :=
  Function.FactorsThrough strategy.place Snapshot.catalog

theorem Scripted.asksCatalog (scripted : Scripted) : scripted.strategy.AsksCatalog := by
  intro a b hcatalog
  funext filesystem file
  have hresolve : resolveDestination a filesystem scripted.placement file =
      resolveDestination b filesystem scripted.placement file :=
    resolveDestination_congr hcatalog rfl rfl rfl fun _ _ _ _ => rfl
  simp only [Scripted.strategy, Scripted.place, hresolve]

namespace Strategies

theorem mem_select {strategies : Strategies} {preferred : String} {strategy : Strategy} :
    strategy ∈ strategies.select preferred ↔ strategy ∈ strategies.registered := by
  simp only [select, List.mem_append, List.mem_filter, beq_iff_eq, bne_iff_ne, ← and_or_left]
  exact and_iff_left (em _)

theorem attempt_congr {m : Type → Type} [Monad m] {α : Type} {deferOnError : Bool}
    {action other : Strategy → m (Except LibraryError α)} {tried : List Strategy}
    (h : ∀ strategy ∈ tried, action strategy = other strategy) (failure : LibraryError) :
    attempt deferOnError action failure tried = attempt deferOnError other failure tried := by
  induction tried generalizing failure with
  | nil => rfl
  | cons strategy rest ih =>
      rw [List.forall_mem_cons] at h
      simp only [attempt, h.1, ih h.2]

theorem place_congr {strategies : Strategies} {a b : Snapshot}
    (hasks : ∀ strategy ∈ strategies.registered, strategy.AsksCatalog)
    (h : a.catalog = b.catalog) (preferred : String) (filesystem : Filesystem) (file : MediaFile) :
    strategies.place preferred a filesystem file = strategies.place preferred b filesystem file :=
  attempt_congr (fun strategy hstrategy => by rw [hasks strategy (mem_select.1 hstrategy) h]) _

end Strategies

theorem NamingContext.ofFile_congr {a b : Snapshot} (h : a.catalog = b.catalog) (file : MediaFile) :
    NamingContext.ofFile a file = NamingContext.ofFile b file := by
  have hepisodes : a.episodesOfFile = b.episodesOfFile := congrArg Catalog.episodesOfFile h
  have hshow : a.show? = b.show? := congrArg Catalog.show? h
  rw [ofFile, ofFile, hepisodes, hshow]

theorem Snapshot.tellsApart_of_episodes {s : Snapshot}
    (h : ∀ x ∈ s.episodes, ∀ y ∈ s.episodes, x ≠ y → (x.showId, x.number) ≠ (y.showId, y.number))
    (hash : String) : s.TellsApart hash := by
  intro x hx y hy
  obtain ⟨_, -, -, hx⟩ := mem_linkedEpisodes_iff.1 hx
  obtain ⟨_, -, -, hy⟩ := mem_linkedEpisodes_iff.1 hy
  exact h x (List.mem_of_find?_eq_some hx) y (List.mem_of_find?_eq_some hy)

namespace Library

/-- Files are named, placed and planned in the same way, however the references of the catalog are
listed: in whatever order, with whatever repetitions, and in whatever case of their hashes. -/
theorem plans_eq_of_sameLinks {library : Library} {a b : Snapshot}
    (hasks : ∀ strategy ∈ library.strategies.registered, strategy.AsksCatalog)
    (hlinks : a.SameLinks b) (happart : ∀ hash, a.TellsApart hash) (filesystem : Filesystem)
    (file : MediaFile) :
    library.renameFile a file = library.renameFile b file ∧
      library.placeFile a filesystem file = library.placeFile b filesystem file ∧
      library.planFile a filesystem file = library.planFile b filesystem file := by
  have hcatalog : a.catalog = b.catalog := hlinks.catalog_eq happart
  have hrename : library.renameFile a file = library.renameFile b file := by
    rw [renameFile, renameFile, NamingContext.ofFile_congr hcatalog]
  have hplace : library.placeFile a filesystem file = library.placeFile b filesystem file :=
    Strategies.place_congr hasks hcatalog library.preferred filesystem file
  refine ⟨hrename, hplace, ?_⟩
  rw [planFile, planFile, hrename, hplace]

/-- A catalog with a file of two episodes and a file of a third one, and a list of references. -/
def doubleEpisode (references : List CrossReference) : Snapshot where
  shows := [{ id := 1, normalEpisodes := 26 }]
  series := [⟨1, 1, "Mushishi"⟩]
  episodes := [
    { id := 10, showId := 1, number := 1 },
    { id := 11, showId := 1, number := 2 },
    { id := 12, showId := 1, number := 3 }]
  files := [
    { id := 1, fileName := "new.mkv", hash := "aa", size := 10,
      locations := [⟨1, ⟨"new.mkv"⟩⟩] },
    { id := 2, fileName := "03.mkv", hash := "BB", size := 10,
      locations := [⟨2, ⟨"Mushishi/03.mkv"⟩⟩] }]
  crossReferences := references
  folders := [
    { id := 1, path := ⟨"/in"⟩, isDropSource := true },
    { id := 2, path := ⟨"/tv"⟩, isExcludedFromPlacement := true }]

/-- The volumes of that catalog. -/
def doubleEpisodeTable : VolumeTable where
  directories := [(⟨"/in"⟩, 1), (⟨"/tv/Mushishi"⟩, 2), (⟨"/tv"⟩, 2)]

/-- The references as they were made. -/
def asMade : Snapshot :=
  doubleEpisode [⟨"AA", 11, 1⟩, ⟨"bb", 12, 1⟩, ⟨"AA", 10, 1⟩]

/-- The same references in another order and another case, and one of them twice. -/
def asKept : Snapshot :=
  doubleEpisode [⟨"aa", 10, 1⟩, ⟨"Bb", 12, 1⟩, ⟨"aA", 11, 1⟩, ⟨"Aa", 10, 1⟩]

theorem sameLinks_asKept : asMade.SameLinks asKept := by
  refine ⟨rfl, fun link => ?_⟩
  have hmade : asMade.crossReferences.map (·.link) =
      [("aa", 11, 1), ("bb", 12, 1), ("aa", 10, 1)] := by decide +kernel
  have hkept : asKept.crossReferences.map (·.link) =
      [("aa", 10, 1), ("bb", 12, 1), ("aa", 11, 1), ("aa", 10, 1)] := by decide +kernel
  rw [hmade, hkept]
  simp only [List.mem_cons, List.not_mem_nil, or_false]
  tauto

/-- The first file goes where the other one is. -/
theorem resolveDestination_asMade :
    resolveDestination asMade doubleEpisodeTable.filesystem {} asMade.files[0] =
      some (.ok ⟨asMade.folders[1], ⟨"Mushishi"⟩⟩) := by
  have hat : Placement.IsAt asMade asMade.files[0] asMade.folders[0] ⟨1, ⟨"new.mkv"⟩⟩ :=
    Placement.isAt_iff.2 (by decide +kernel)
  have hlinked : (asMade.episodesOfFile asMade.files[0].hash).head? = some asMade.episodes[0] := by
    rw [Snapshot.episodesOfFile_eq_insertionSort]
    decide +kernel
  have hseries : asMade.seriesOfShow? asMade.episodes[0].showId = some asMade.series[0] := by
    decide +kernel
  have hvisited : newestFirst (asMade.episodesOfSeries asMade.series[0].id) = asMade.episodes := by
    rw [newestFirst_eq_insertionSort]
    decide +kernel
  rw [Placement.resolveDestination_eq_outcome (VolumeTable.settles (Or.inr rfl)) hat hlinked hseries,
    hvisited]
  decide +kernel

/-- Names files after their episodes. -/
def numbering : Library where
  strategies := ⟨[Scripted.strategy { script := some (Scripted.compile "n" "DO ADD '%enr'") }], true⟩
  preferred := "legacy"

theorem plans_eq_of_sameLinks_asKept :
    (∀ strategy ∈ numbering.strategies.registered, strategy.AsksCatalog) ∧
      asMade.SameLinks asKept ∧ (∀ hash, asMade.TellsApart hash) ∧
      numbering.planFile asKept doubleEpisodeTable.filesystem asMade.files[0] =
        some (.ok ⟨1, "01-02.mkv", ⟨asMade.folders[1], ⟨"Mushishi"⟩⟩⟩) := by
  have hasks : ∀ strategy ∈ numbering.strategies.registered, strategy.AsksCatalog :=
    List.forall_mem_singleton.2 (Scripted.asksCatalog _)
  have happart : ∀ hash, asMade.TellsApart hash :=
    Snapshot.tellsApart_of_episodes (by decide +kernel)
  have hepisodes : asMade.episodesOfFile asMade.files[0].hash =
      [asMade.episodes[0], asMade.episodes[1]] := by
    rw [Snapshot.episodesOfFile_eq_insertionSort]
    decide +kernel
  have hname : numbering.renameFile asMade asMade.files[0] = .ok "01-02.mkv" := by
    rw [renameFile, NamingContext.ofFile, hepisodes]
    decide +kernel
  have hselect : numbering.strategies.select numbering.preferred =
      numbering.strategies.registered := rfl
  have hplace : numbering.placeFile asMade doubleEpisodeTable.filesystem asMade.files[0] =
      some (.ok ⟨asMade.folders[1], ⟨"Mushishi"⟩⟩) := by
    rw [placeFile, Strategies.place, hselect]
    simp only [numbering, Strategies.attempt, Scripted.strategy, Scripted.place,
      resolveDestination_asMade]
    rfl
  refine ⟨hasks, sameLinks_asKept, happart, ?_⟩
  rw [← (plans_eq_of_sameLinks hasks sameLinks_asKept happart doubleEpisodeTable.filesystem
    asMade.files[0]).2.2, planFile, hname, hplace]
  rfl

end Library

end MediaShelf
