import MediaShelf.Script.Action
import MediaShelf.Script.SafeName
import MediaShelf.Script.Template

/-!
# Names under construction

A draft is the name that the lines of a script have put together so far. Actions append to it or
replace parts of it; the extension is added once, when it is finished.

An apostrophe cannot be written in a script, because it quotes. A backtick stands for it, and
finishing a draft turns every backtick into an apostrophe.
-/

namespace MediaShelf

/-- A name under construction. -/
structure Draft where
  /-- The name so far. -/
  name : List Char := []
deriving DecidableEq

namespace Draft

/-- Appends a template, without its apostrophes. -/
def add (draft : Draft) (template : List Char) (ctx : NamingContext) (options : NamingOptions) :
    Draft :=
  ⟨draft.name ++ substitute ctx options (Action.dropApostrophes template)⟩

/-- Replaces every occurrence of a text. -/
def replace (draft : Draft) (target replacement : List Char) : Draft :=
  ⟨Text.replaceAll target replacement draft.name⟩

/-- Takes an action. -/
def apply (draft : Draft) (action : Action) (ctx : NamingContext) (options : NamingOptions) :
    Except ScriptError Draft :=
  match action with
  | .add template => .ok (draft.add template ctx options)
  | .replace target replacement => .ok (draft.replace target replacement)
  | .fail => .error .aborted
  | .ignored _ => .ok draft

/-- A character of a finished name: a backtick becomes an apostrophe. -/
def restoreApostrophe (c : Char) : Char :=
  if c = '\x60' then '\'' else c

/-- A draft with the extension of the present file name, made safe. -/
def withExtension (draft : Draft) (extension : List Char) : List Char :=
  safeChars ((draft.name ++ '.' :: extension).map restoreApostrophe)

/-- Finishes a name. -/
def finish (draft : Draft) (ctx : NamingContext) : Except ScriptError String :=
  if draft.name.isEmpty then .error .emptyName
  else
    match ctx.file.extension? with
    | some extension => .ok (String.ofList (draft.withExtension extension.toList))
    | none => .error (.missingExtension ctx.file.fileName)

end Draft

end MediaShelf
