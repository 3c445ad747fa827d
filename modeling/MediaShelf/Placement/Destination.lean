import MediaShelf.Catalog.Basic

/-!
# Destinations

Where a file should live: one of the library's folders, and a directory inside it.
-/

namespace MediaShelf

/-- A directory of a library folder. -/
structure Destination where
  folder : Folder
  relativePath : Path
deriving DecidableEq

namespace Destination

/-- The directory that the file should be moved into. -/
def path (destination : Destination) : Path :=
  destination.folder.path.join destination.relativePath

end Destination

end MediaShelf
