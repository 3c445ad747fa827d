import MediaShelf.Catalog.Snapshot
import MediaShelf.Library.Error
import MediaShelf.Placement.Destination
import MediaShelf.Script.Context
import MediaShelf.Storage.Basic

/-!
# Strategies

A strategy names files and finds destinations for them. Several can be registered. The preferred
ones are tried first, in the order of their registration, then the others in theirs. If failures are
deferred, a strategy that fails hands over to the next one, and the last failure is what remains;
otherwise the first strategy has the only word.
-/

namespace MediaShelf

/-- A way to name files and to find destinations. -/
structure Strategy where
  /-- What it is called in settings. -/
  id : String
  /-- The new name of a file, with its extension. -/
  rename : NamingContext → Except LibraryError String
  /-- Where a file should be moved to; it may never be found out. -/
  place : Snapshot → Filesystem → MediaFile → Option (Except LibraryError Destination)

/-- The registered strategies. -/
structure Strategies where
  /-- The strategies in the order of their registration. -/
  registered : List Strategy
  /-- Whether a strategy that fails hands over to the next. -/
  deferOnError : Bool

namespace Strategies

/-- The ids of the strategies. -/
def ids (strategies : Strategies) : List String :=
  strategies.registered.map (·.id)

/-- All strategies, the preferred ones first. -/
def select (strategies : Strategies) (preferred : String) : List Strategy :=
  strategies.registered.filter (·.id == preferred)
    ++ strategies.registered.filter (·.id != preferred)

/-- Tries strategies one after the other. What remains if there is none to try is `failure`. -/
def attempt {m : Type → Type} [Monad m] {α : Type} (deferOnError : Bool)
    (action : Strategy → m (Except LibraryError α)) (failure : LibraryError) :
    List Strategy → m (Except LibraryError α)
  | [] => pure (.error failure)
  | strategy :: rest => do
    match ← action strategy with
    | .ok a => return .ok a
    | .error error =>
      if deferOnError then attempt deferOnError action error rest else return .error error

/-- The new name of a file. -/
def rename (strategies : Strategies) (preferred : String) (ctx : NamingContext) :
    Except LibraryError String :=
  Id.run (attempt strategies.deferOnError (fun strategy => pure (strategy.rename ctx))
    (.noStrategy preferred) (strategies.select preferred))

/-- Where a file should be moved to. -/
def place (strategies : Strategies) (preferred : String) (snapshot : Snapshot)
    (filesystem : Filesystem) (file : MediaFile) : Option (Except LibraryError Destination) :=
  attempt strategies.deferOnError (fun strategy => strategy.place snapshot filesystem file)
    (.noStrategy preferred) (strategies.select preferred)

end Strategies

end MediaShelf
