import MediaShelf.Library.Strategy
import MediaShelf.Placement.Resolve
import MediaShelf.Script.Program

/-!
# The scripted strategy

Names files with a script of lines, and places them next to their siblings. It can be registered
without a script; it still finds destinations then, but every attempt to name a file fails.
-/

namespace MediaShelf

/-- The scripted strategy. -/
structure Scripted where
  /-- The script, if there is one. -/
  script : Option Script := none
  naming : NamingOptions := {}
  placement : PlacementOptions := {}
deriving DecidableEq

namespace Scripted

/-- What the strategy is called. -/
def id : String := "legacy"

/-- Compiles a script for this strategy. -/
def compile (name text : String) : Script :=
  Script.compile name id text

/-- Runs the script. -/
def rename (scripted : Scripted) (ctx : NamingContext) : Except LibraryError String :=
  match scripted.script with
  | some script =>
    match script.run ctx scripted.naming with
    | .ok name => .ok name
    | .error error => .error (.notNamed error.message)
  | none => .error .scriptUnavailable

/-- Finds a destination. -/
def place (scripted : Scripted) (snapshot : Snapshot) (filesystem : Filesystem)
    (file : MediaFile) : Option (Except LibraryError Destination) :=
  (resolveDestination snapshot filesystem scripted.placement file).map fun result =>
    match result with
    | .ok destination => .ok destination
    | .error error => .error (.notPlaced error.message)

/-- The strategy to be registered. -/
def strategy (scripted : Scripted) : Strategy where
  id := id
  rename := scripted.rename
  place := scripted.place

end Scripted

end MediaShelf
