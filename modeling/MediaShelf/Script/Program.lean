import MediaShelf.Script.Draft
import MediaShelf.Script.Line

/-!
# Scripts

A script is a sequence of lines. It is compiled once. A line that does not follow the grammar is
left out and never keeps the others from taking effect; every line keeps its number.

To run a script is to take the actions of the lines that hold, in order, on an empty draft, and to
finish the draft.
-/

namespace MediaShelf

/-- A compiled script. -/
structure Script where
  /-- The name of the script. -/
  name : String
  /-- The strategy that the script belongs to. -/
  strategy : String
  lines : List Line
deriving DecidableEq

namespace Script

/-- The lines among some rows of a text, the first of which has a number. -/
def linesFrom (number : Nat) : List (List Char) → List Line
  | [] => []
  | row :: rest =>
    match Line.parse number row with
    | .ok (some line) => line :: linesFrom (number + 1) rest
    | _ => linesFrom (number + 1) rest

/-- The lines of a text. -/
def linesOf (text : List Char) : List Line :=
  linesFrom 1 (Text.rows text)

/-- Compiles a script. -/
def compile (name strategy : String) (text : String) : Script :=
  ⟨name, strategy, linesOf text.toList⟩

/-- Takes the actions of the lines that hold. -/
def applyLines (ctx : NamingContext) (options : NamingOptions) (draft : Draft) :
    List Line → Except ScriptError Draft
  | [] => .ok draft
  | line :: rest =>
    if line.expression.holds ctx then
      match draft.apply line.action ctx options with
      | .ok draft => applyLines ctx options draft rest
      | .error error => .error error
    else applyLines ctx options draft rest

/-- Runs a script: the new name of the file, with its extension. -/
def run (script : Script) (ctx : NamingContext) (options : NamingOptions) :
    Except ScriptError String :=
  if ctx.episodes.isEmpty then .error .noEpisodes
  else
    match applyLines ctx options {} script.lines with
    | .ok draft => draft.finish ctx
    | .error error => .error error

end Script

end MediaShelf
