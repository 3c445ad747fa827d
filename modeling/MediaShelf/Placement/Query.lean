import MediaShelf.Placement.Error
import MediaShelf.Storage.Basic

/-!
# Queries with a limit

A query that stays silent is given up after a limit of time. Time itself has no part in the result:
all that counts is whether the limit passes while somebody waits. Without a limit nobody sees the end
of the query, and neither does whatever waits for it. So everything that asks queries yields an
`Option`, in which `none` is an operation that never ends.

The program gives up after every limit it is set, however long. With no clock to wait on, a limit of a
million seconds (more than eleven days) is counted here as one that does not pass: whoever runs the
program sees it hang. That number is the model's own choice and not the program's. Proofs ask only
whether a query is given up, so what they say holds for any other bound as well, and for none.
-/

namespace MediaShelf

/-- How placement decides. -/
structure PlacementOptions where
  /-- Take folders without asking whether the file fits. -/
  skipSpaceChecks : Bool := false
  /-- The limit of a query in milliseconds, if there is one. -/
  queryLimit : Option Nat := some 10000
deriving DecidableEq

namespace PlacementOptions

/-- The milliseconds from which on a limit counts as one that does not pass, chosen for this model. -/
def endlessLimit : Nat := 1000000000

/-- Whether a silent query is given up some day. -/
def givesUp (options : PlacementOptions) : Bool :=
  options.queryLimit.any (· < endlessLimit)

/-- What comes of a query about a path under the limit. -/
def await {α : Type} (options : PlacementOptions) (path : Path) :
    Reply α → Option (Except PlacementError α)
  | .answers a => some (.ok a)
  | .fails p => some (.error (.queryFailed p))
  | .silent => if options.givesUp then some (.error (.queryTimedOut path)) else none

end PlacementOptions

end MediaShelf
