import MediaShelf.Library.Plan
import MediaShelf.Library.Scripted
import MediaShelf.Settings.Basic
import MediaShelf.Storage.Session

/-!
# Setting up a library

A library of strategies is set up from settings: the scripted strategy is registered with the script
that the settings name. That script is read here, so one that is missing is noticed before any work
is done. Settings without a script are in order; only naming files fails then.
-/

namespace MediaShelf

/-- Reads and compiles a script. -/
def Scripted.load (path : Path) (name : String) : Session (Except LibraryError Script) := do
  match ← Session.readPath path with
  | .text s => return .ok (Scripted.compile name s)
  | .binary _ => return .error (.scriptUnreadable path)
  | .absent => return .error (.scriptUnreadable path)

namespace Library

/-- The library that settings ask for, with a script. -/
def ofScript (settings : Settings) (script : Option Script) : Library where
  strategies :=
    ⟨[Scripted.strategy ⟨script, settings.rename.options, settings.placement.options⟩],
      settings.rename.deferOnError⟩
  preferred := settings.rename.strategy

/-- Sets up the library that settings ask for. -/
def load (settings : Settings) : Session (Except LibraryError Library) :=
  match settings.rename.script with
  | some path => do
    return (← Scripted.load path settings.rename.scriptName).map fun script =>
      ofScript settings (some script)
  | none => return .ok (ofScript settings none)

end Library

end MediaShelf
