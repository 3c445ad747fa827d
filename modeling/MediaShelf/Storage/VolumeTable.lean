import MediaShelf.Storage.Basic

/-!
# Tables of volumes

A filesystem that is given by a table: the volumes with their free bytes, and directories with the
volumes they are on. A path lies on the volume of the innermost of the listed directories that hold
it. A volume that is not listed has room for everything. Paths can also be listed for which every
query fails, or never ends.

A later entry replaces an earlier one for the same volume or the same place. Two listed directories
that hold one path and are equally deep are the same place, so there is just one innermost place.
-/

namespace MediaShelf

/-- A filesystem as a table. -/
structure VolumeTable where
  /-- The free bytes of the volumes. -/
  volumes : List (UInt64 × UInt64) := []
  /-- The directories, and the volumes they are on. -/
  directories : List (Path × UInt64) := []
  /-- The paths for which queries fail. -/
  failing : List Path := []
  /-- The paths for which queries never end. -/
  hanging : List Path := []
deriving DecidableEq

namespace VolumeTable

/-- Whether a path is in a list, in whatever spelling. -/
def listed (paths : List Path) (path : Path) : Bool :=
  paths.any (·.sameAs path)

/-- The entries of the directories that hold a path. -/
def holding (table : VolumeTable) (path : Path) : List (Path × UInt64) :=
  table.directories.filter fun entry => path.isWithin entry.1

/-- The deeper one of two entries, the second one if they are equally deep. -/
def deeper (a b : Path × UInt64) : Path × UInt64 :=
  if b.1.components.length < a.1.components.length then a else b

/-- The deepest entry of a list. -/
def deepest? : List (Path × UInt64) → Option (Path × UInt64)
  | [] => none
  | entry :: rest => some (rest.foldl deeper entry)

/-- The volume that holds a path. -/
def volume? (table : VolumeTable) (path : Path) : Option UInt64 :=
  (deepest? (table.holding path)).map (·.2)

/-- The free bytes of a volume. -/
def freeOn (table : VolumeTable) (volume : UInt64) : UInt64 :=
  match table.volumes.reverse.lookup volume with
  | some free => free
  | none => 18446744073709551615

/-- The reply of a query about a path, unless queries about it fail or never end. -/
def reply {α : Type} (table : VolumeTable) (path : Path) (answer : Reply α) : Reply α :=
  if listed table.hanging path then .silent
  else if listed table.failing path then .fails path
  else answer

/-- Goes on with the volume that holds a path; without one the query fails. -/
def withVolume {α : Type} (table : VolumeTable) (path : Path) (next : UInt64 → Reply α) :
    Reply α :=
  match table.volume? path with
  | some volume => next volume
  | none => .fails path

/-- Whether a path is a directory of the table. -/
def isDir (table : VolumeTable) (path : Path) : Reply Bool :=
  table.reply path (.answers (listed (table.directories.map (·.1)) path))

/-- The free bytes of the volume that holds a path. -/
def freeBytes (table : VolumeTable) (path : Path) : Reply UInt64 :=
  table.reply path (table.withVolume path fun volume => .answers (table.freeOn volume))

/-- Whether two paths are on one volume. -/
def sameVolume (table : VolumeTable) (a b : Path) : Reply Bool :=
  table.reply a (table.reply b
    (table.withVolume a fun va => table.withVolume b fun vb => .answers (va == vb)))

/-- The filesystem of a table. -/
def filesystem (table : VolumeTable) : Filesystem where
  isDir := table.isDir
  freeBytes := table.freeBytes
  sameVolume := table.sameVolume

end VolumeTable

end MediaShelf
