import MediaShelf.Proofs.Catalog.Links
import MediaShelf.Proofs.Placement.Decision

/-!
# Searches that agree

Two searches come to the same end, or to none, if they see the same catalog and find the same
directories usable. Nothing else of the filesystem, of the options or of the file has a way into the
result. `Agrees` says what has to be the same, and the lemmas carry it through the search, loop by
loop. Equality is between whole results, so a search that never ends agrees only with one that does
not end either.
-/

namespace MediaShelf

namespace Placement

/-- Two searches for files with one content, from one directory, that see the same catalog and find
the same directories usable. -/
structure Agrees (p q : Placement) : Prop where
  catalog : p.snapshot.catalog = q.snapshot.catalog
  hash : p.file.hash = q.file.hash
  directory : p.currentDirectory = q.currentDirectory
  isUsable : ∀ folder directory, p.isUsable folder directory = q.isUsable folder directory

namespace Agrees

variable {p q : Placement}

theorem firstUsable_eq (h : p.Agrees q) (folders : List Folder) :
    p.firstUsable folders = q.firstUsable folders := by
  induction folders with
  | nil => rfl
  | cons folder rest ih => rw [firstUsable, firstUsable, h.isUsable, ih]

theorem consider?_eq (h : p.Agrees q) (sibling : MediaFile) :
    p.consider? sibling = q.consider? sibling := by
  have hfolder : p.snapshot.folder? = q.snapshot.folder? := congrArg Catalog.folder? h.catalog
  have hkept : p.isKeptByHand = q.isKeptByHand := by
    funext location
    rw [isKeptByHand, isKeptByHand, hfolder]
  simp only [consider?, suggestion?, h.hash, h.directory, hkept, hfolder]

theorem visitFiles_eq (h : p.Agrees q) (files : List MediaFile) :
    p.visitFiles files = q.visitFiles files := by
  induction files with
  | nil => rfl
  | cons sibling rest ih =>
      rw [visitFiles, visitFiles, h.consider?_eq sibling]
      cases q.consider? sibling with
      | none => exact ih
      | some destination => simp only [h.isUsable, ih]

theorem visitEpisodes_eq (h : p.Agrees q) (episodes : List Episode) :
    p.visitEpisodes episodes = q.visitEpisodes episodes := by
  have hshows : p.snapshot.showsOfEpisode = q.snapshot.showsOfEpisode :=
    congrArg Catalog.showsOfEpisode h.catalog
  have hfiles : p.snapshot.filesOfEpisode = q.snapshot.filesOfEpisode :=
    congrArg Catalog.filesOfEpisode h.catalog
  induction episodes with
  | nil => rfl
  | cons episode rest ih =>
      rw [visitEpisodes, visitEpisodes, hshows, hfiles, h.visitFiles_eq, ih]

theorem destination_eq (h : p.Agrees q) (fallback : Option Folder) :
    p.destination fallback = q.destination fallback := by
  have hepisodes : p.snapshot.episodesOfFile = q.snapshot.episodesOfFile :=
    congrArg Catalog.episodesOfFile h.catalog
  have hseries : p.snapshot.seriesOfShow? = q.snapshot.seriesOfShow? :=
    congrArg Catalog.seriesOfShow? h.catalog
  have hvisited : p.snapshot.episodesOfSeries = q.snapshot.episodesOfSeries :=
    congrArg Catalog.episodesOfSeries h.catalog
  simp only [destination, hepisodes, hseries, hvisited, h.hash, h.visitEpisodes_eq]

end Agrees

theorem locate?_congr {a b : Snapshot} (h : a.folder? = b.folder?) (locations : List Location) :
    locate? a locations = locate? b locations := by
  simp only [locate?_eq_findSome?, h]

end Placement

open Placement

/-- A file of one content at one place goes to the same destination for all who see the same catalog
and find the same directories usable. -/
theorem resolveDestination_congr {a b : Snapshot} {fs₁ fs₂ : Filesystem}
    {options₁ options₂ : PlacementOptions} {f g : MediaFile} (hcatalog : a.catalog = b.catalog)
    (hid : f.id = g.id) (hhash : f.hash = g.hash) (hlocations : f.locations = g.locations)
    (husable : ∀ home here folder directory,
      (Placement.mk a fs₁ options₁ f home here).isUsable folder directory =
        (Placement.mk b fs₂ options₂ g home here).isUsable folder directory) :
    resolveDestination a fs₁ options₁ f = resolveDestination b fs₂ options₂ g := by
  have hfolder : a.folder? = b.folder? := congrArg Catalog.folder? hcatalog
  have hfolders : a.folders = b.folders := congrArg Catalog.folders hcatalog
  have hdefaults : a.defaultDestinations = b.defaultDestinations := by
    rw [Snapshot.defaultDestinations, Snapshot.defaultDestinations, hfolders]
  rw [resolveDestination, resolveDestination, hlocations, locate?_congr hfolder, hid, hdefaults]
  split
  · rfl
  · next home location _ =>
      have hagrees : Agrees ⟨a, fs₁, options₁, f, home, home.path.join location.directory⟩
          ⟨b, fs₂, options₂, g, home, home.path.join location.directory⟩ :=
        ⟨hcatalog, hhash, rfl, husable _ _⟩
      simp only [hagrees.firstUsable_eq, hagrees.destination_eq]

end MediaShelf
