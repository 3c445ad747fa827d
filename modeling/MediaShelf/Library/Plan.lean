import MediaShelf.Library.Strategy

/-!
# Plans

A plan says what should happen to one file: its new name, and where it goes. The name is found
first, so a file that has neither fails for want of a name.
-/

namespace MediaShelf

/-- The strategies with the one that is tried first. -/
structure Library where
  strategies : Strategies
  preferred : String

/-- What should happen to a file. -/
structure Plan where
  /-- The id of the file. -/
  fileId : UInt64
  /-- Its new name, with the extension. -/
  name : String
  destination : Destination
deriving DecidableEq

namespace Plan

/-- The path that the file would end up at. -/
def path (plan : Plan) : Path :=
  plan.destination.path.join ⟨plan.name⟩

end Plan

/-- What a script may look at for a file: its episodes, and the show of the first of them. -/
def NamingContext.ofFile (snapshot : Snapshot) (file : MediaFile) :
    Except LibraryError NamingContext :=
  match snapshot.episodesOfFile file.hash with
  | [] => .error .noEpisodes
  | episode :: rest =>
    match snapshot.show? episode.showId with
    | some s => .ok ⟨file, episode :: rest, s⟩
    | none => .error (.showNotFound episode.showId)

namespace Library

/-- The new name of a file. -/
def renameFile (library : Library) (snapshot : Snapshot) (file : MediaFile) :
    Except LibraryError String :=
  match NamingContext.ofFile snapshot file with
  | .ok ctx => library.strategies.rename library.preferred ctx
  | .error error => .error error

/-- Where a file should be moved to. -/
def placeFile (library : Library) (snapshot : Snapshot) (filesystem : Filesystem)
    (file : MediaFile) : Option (Except LibraryError Destination) :=
  library.strategies.place library.preferred snapshot filesystem file

/-- What should happen to a file. -/
def planFile (library : Library) (snapshot : Snapshot) (filesystem : Filesystem)
    (file : MediaFile) : Option (Except LibraryError Plan) :=
  match library.renameFile snapshot file with
  | .ok name =>
    (library.placeFile snapshot filesystem file).map fun placed =>
      placed.map fun destination => ⟨file.id, name, destination⟩
  | .error error => some (.error error)

end Library

end MediaShelf
