import MediaShelf.Path

/-!
# Filesystems

Placement asks three things about the place where folders lie: whether a directory exists, how much
room its volume has, and whether two paths are on one volume, between which moving a file needs no
room. It never reads, writes or moves anything, and the answers do not change while it asks, so a
filesystem is a record of three functions.

A query need not answer: it may fail, and on a share that is gone it may stay silent for ever.
-/

namespace MediaShelf

/-- What comes of a query. -/
inductive Reply (α : Type) where
  | answers (a : α)
  /-- The query fails because of a path. -/
  | fails (path : Path)
  /-- The query never ends. -/
  | silent
deriving DecidableEq

/-- What can be asked of a filesystem. -/
structure Filesystem where
  /-- Whether a path is a directory. What does not exist is none. -/
  isDir : Path → Reply Bool
  /-- The free bytes of the volume that holds a path. -/
  freeBytes : Path → Reply UInt64
  /-- Whether two paths are on one volume. -/
  sameVolume : Path → Path → Reply Bool

end MediaShelf
