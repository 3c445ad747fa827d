import MediaShelf.Storage.Basic

/-!
# Sessions

A run of the program reads a few files and then asks a filesystem about some directories. A session
is such a run as a value: either it is done, or it asks for something and tells how it goes on with
each answer. The same session can be held with a machine, which answers from its disks, and with a
directory tree in memory; what it does is the same in both cases.

Before a filesystem is asked, the session names all paths that it may ask about, so that the other
side can look at them beforehand.
-/

namespace MediaShelf

/-- What is found when a path is read. -/
inductive FileContent where
  /-- A file with a text. -/
  | text (s : String)
  /-- A file whose bytes are no text. -/
  | binary (bytes : List UInt8)
  /-- No file: a directory, or nothing at all. -/
  | absent
deriving DecidableEq

/-- A run that asks for files and for a filesystem. -/
inductive Session (α : Type) where
  /-- The run is over. -/
  | done (a : α)
  /-- The run goes on with what a path holds. -/
  | read (path : Path) (next : FileContent → Session α)
  /-- The run goes on with a filesystem that answers about some paths. -/
  | inspect (paths : List Path) (next : Filesystem → Session α)

namespace Session

/-- Goes on with the result of a session. -/
def bind {α β : Type} (session : Session α) (next : α → Session β) : Session β :=
  match session with
  | done a => next a
  | read path resume => read path fun content => (resume content).bind next
  | inspect paths resume => inspect paths fun filesystem => (resume filesystem).bind next

instance : Monad Session where
  pure := done
  bind := bind

/-- Asks what a path holds. -/
def readPath (path : Path) : Session FileContent :=
  read path done

/-- Asks for a filesystem. -/
def inspectPaths (paths : List Path) : Session Filesystem :=
  inspect paths done

/-- Holds a session with files and a filesystem that do not change. -/
def run {α : Type} (content : Path → FileContent) (filesystem : Filesystem) : Session α → α
  | done a => a
  | read path next => run content filesystem (next (content path))
  | inspect _ next => run content filesystem (next filesystem)

end Session

end MediaShelf
