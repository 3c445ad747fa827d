import MediaShelf.Path
import MediaShelf.Settings.Environment
import MediaShelf.Text.Numeral

/-!
# Requests on the command line

    shelf [OPTIONS] <rename|place|plan> --snapshot <PATH> [OPTIONS]

The command line has two levels: options in front of the task, and the task's own options behind it.
The options for the settings file and for verbosity can stand on both; where both name a settings
file, the inner one counts. Without any, an environment variable may name one.

An option with a value takes it from the same argument, behind `=` or (if it is a letter) directly,
or else from the next argument, which then must not look like an option itself. At one level an
option with a value is given at most once. Arguments are read from left to right, so a request for
help is granted only if nothing before it is wrong.
-/

namespace MediaShelf.CommandLine

/-- What the program does with the files of a snapshot. -/
inductive Task where
  /-- It finds the new names. -/
  | rename
  | place
  | plan
deriving DecidableEq

/-- The task with a name. -/
def Task.ofName? : String → Option Task
  | "rename" => some .rename
  | "place" => some .place
  | "plan" => some .plan
  | _ => none

/-- A task with what it needs to know. -/
structure Invocation where
  task : Task
  /-- The settings file that is asked for. -/
  settings : Option Path
  /-- The snapshot of the catalog. -/
  snapshot : Path
  /-- The script that is used instead of that of the settings. -/
  script : Option Path
  /-- The only file to be worked on. -/
  file : Option UInt64
deriving DecidableEq

/-- What the user asks for. -/
inductive Request where
  | run (invocation : Invocation)
  /-- An explanation of the command line. -/
  | help
  /-- The version of the program. -/
  | version
deriving DecidableEq

/-- An option that takes a value. -/
inductive Parameter where
  | settings
  | snapshot
  | script
  /-- The id of a file. -/
  | file
deriving DecidableEq

/-- The option with a long name. -/
def Parameter.ofName? : String → Option Parameter
  | "config" => some .settings
  | "snapshot" => some .snapshot
  | "script" => some .script
  | "file" => some .file
  | _ => none

/-- A level of the command line. -/
inductive Level where
  /-- In front of the task. -/
  | outer
  | inner (task : Task)
deriving DecidableEq

/-- Whether an option with a value can stand on a level. -/
def Level.accepts : Level → Parameter → Bool
  | _, .settings => true
  | .inner _, .snapshot => true
  | .inner .rename, .script => true
  | .inner .plan, .script => true
  | .inner .rename, .file => true
  | .inner .place, .file => true
  | _, _ => false

/-- The values of the options on a level. -/
structure Given where
  settings : Option Path := none
  snapshot : Option Path := none
  script : Option Path := none
  /-- The id of a file. -/
  file : Option UInt64 := none
deriving DecidableEq

namespace Given

/-- Reads a path into a place that is still empty. A path is not empty. -/
def path? (present : Option Path) (text : String) : Option Path :=
  if present.isSome || text.isEmpty then none else some ⟨text⟩

/-- Reads an id into a place that is still empty. -/
def id? (present : Option UInt64) (text : String) : Option UInt64 :=
  if present.isSome then none
  else (Text.readNumeral .long text.toList).map fun n => UInt64.ofNat n.toNat

/-- Adds the value of an option. -/
def add (given : Given) (text : String) : Parameter → Option Given
  | .settings => (path? given.settings text).map fun path => { given with settings := some path }
  | .snapshot => (path? given.snapshot text).map fun path => { given with snapshot := some path }
  | .script => (path? given.script text).map fun path => { given with script := some path }
  | .file => (id? given.file text).map fun id => { given with file := some id }

end Given

/-- What one argument says. -/
inductive Argument where
  /-- Nothing but options follow from here on: the argument `--`. -/
  | terminator
  /-- Options without a value, which have no influence on the result. -/
  | flags
  /-- A wish for help. -/
  | help
  /-- A wish for the version. -/
  | version
  /-- An option with a value, which is perhaps in the same argument. -/
  | option (parameter : Parameter) (value : Option String)
  /-- A word that is no option. -/
  | word
deriving DecidableEq

namespace Argument

/-- Reads what follows two dashes. -/
def readLong (level : Level) (cs : List Char) : Option Argument :=
  let name := String.ofList (cs.takeWhile (· != '='))
  let value :=
    match cs.dropWhile (· != '=') with
    | _ :: value => some (String.ofList value)
    | [] => none
  match Parameter.ofName? name with
  | some parameter => if level.accepts parameter then some (.option parameter value) else none
  | none =>
    if value.isSome then none
    else if name = "verbose" then some .flags
    else if name = "help" then some .help
    else if name = "version" && level = .outer then some .version
    else none

/-- The value behind the letter of an option, if there is one in the same argument. -/
def attached : List Char → Option String
  | [] => none
  | '=' :: value => some (String.ofList value)
  | value => some (String.ofList value)

/-- Reads what follows one dash: letters of options up to the first one that settles what the
argument says. -/
def readShort (level : Level) : List Char → Option Argument
  | [] => some .flags
  | 'v' :: rest => readShort level rest
  | 'c' :: rest => some (.option .settings (attached rest))
  | 'h' :: _ => some .help
  | 'V' :: _ => if level = .outer then some .version else none
  | _ => none

/-- Reads an argument on a level. -/
def read (level : Level) (cs : List Char) : Option Argument :=
  match cs with
  | ['-', '-'] => some .terminator
  | '-' :: '-' :: rest => readLong level rest
  | '-' :: c :: rest => readShort level (c :: rest)
  | _ => some .word

/-- Whether an argument can be the value of an option in front of it. -/
def isValue (cs : List Char) : Bool :=
  match cs with
  | '-' :: _ :: _ => false
  | _ => true

end Argument

/-- How the arguments of a level end. -/
inductive Ending where
  /-- With a wish for help. -/
  | help
  /-- With a wish for the version. -/
  | version
  /-- With the last argument. -/
  | complete (given : Given)
  /-- With a word in front of other arguments. -/
  | word (given : Given) (word : String) (rest : List String)
deriving DecidableEq

/-- Reads the arguments of a level behind those that have been read. -/
def Level.read (level : Level) (given : Given) : List String → Option Ending
  | [] => some (.complete given)
  | argument :: rest =>
    match Argument.read level argument.toList with
    | some .terminator => if rest.isEmpty then some (.complete given) else none
    | some .flags => level.read given rest
    | some .help => some .help
    | some .version => some .version
    | some (.option parameter (some value)) => do level.read (← given.add value parameter) rest
    | some (.option parameter none) =>
      match rest with
      | [] => none
      | value :: rest =>
        if Argument.isValue value.toList then do level.read (← given.add value parameter) rest
        else none
    | some .word => some (.word given argument rest)
    | none => none

namespace Request

/-- The variable that may name a settings file. -/
def settingsVariable : String := "SHELF_CONFIG"

/-- The settings file that is asked for. The variable is looked at for each level that names none,
and must not be empty then. -/
def settingsPath? (fromVariable : Option String) (outer inner : Given) : Option (Option Path) :=
  let named := inner.settings.or outer.settings
  if (outer.settings.isNone || inner.settings.isNone) && fromVariable == some "" then none
  else some (named.or (fromVariable.map Path.mk))

/-- The request for a task, with what is given on both levels. -/
def ofTask (task : Task) (fromVariable : Option String) (outer inner : Given) : Option Request := do
  let settings ← settingsPath? fromVariable outer inner
  let snapshot ← inner.snapshot
  return .run ⟨task, settings, snapshot, inner.script, inner.file⟩

/-- The request for help with a task, or with help itself, or in general. -/
def ofHelp : List String → Option Request
  | [] => some .help
  | [name] => if name = "help" || (Task.ofName? name).isSome then some .help else none
  | _ => none

/-- The request that arguments make; there may be none. -/
def ofArguments (environment : Environment) (arguments : List String) : Option Request := do
  match ← Level.outer.read {} arguments with
  | .help => return .help
  | .version => return .version
  | .complete _ => none
  | .word _ "help" rest => ofHelp rest
  | .word outer word rest =>
    let task ← Task.ofName? word
    match ← (Level.inner task).read {} rest with
    | .help => return .help
    | .version => return .version
    | .complete inner => ofTask task (environment.value? settingsVariable) outer inner
    | .word _ _ _ => none

end Request

end MediaShelf.CommandLine
