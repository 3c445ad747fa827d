import MediaShelf.Catalog.Basic

/-!
# What a script sees

A script names one file. It may look at the file, at the episodes the file is linked to, and at the
show of the first of them.
-/

namespace MediaShelf

/-- What a script may look at while it names a file. -/
structure NamingContext where
  file : MediaFile
  /-- Its episodes in order; a file of several episodes has more than one. -/
  episodes : List Episode
  /-- The show of the first episode. -/
  «show» : Show
deriving DecidableEq

namespace NamingContext

/-- The first episode. -/
def firstEpisode? (ctx : NamingContext) : Option Episode :=
  ctx.episodes.head?

/-- The last episode. -/
def lastEpisode? (ctx : NamingContext) : Option Episode :=
  ctx.episodes.getLast?

/-- The group that released the file. -/
def group? (ctx : NamingContext) : Option ReleaseGroup :=
  ctx.file.release.bind (·.group)

end NamingContext

/-- How names are made. -/
structure NamingOptions where
  /-- The greatest length of an episode title; a longer one is cut. -/
  titleLimit : Nat := 33
deriving DecidableEq

end MediaShelf
