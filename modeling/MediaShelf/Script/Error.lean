/-!
# What can go wrong in a script

A line may be malformed, an argument of a test may make no sense, and a run may end without a name.
Trouble inside a test never ends a run: the test is false then. The errors of tests exist so that
the tests' definition can say why, and because tokens and numbers are also read outside of tests.
-/

namespace MediaShelf

/-- What is wrong with a line. -/
inductive LineFault where
  /-- No `DO` where one is expected; the line, without its comment and the blanks around it. -/
  | missingDo (line : String)
  /-- A letter that is no test. -/
  | unknownTest (letter : Char)
  /-- The first test has a joiner, or a later one has none; the test. -/
  | misplacedJoiner (test : String)
  /-- `IF` is followed by no test. -/
  | noTest
deriving DecidableEq

namespace LineFault

/-- What the user is told about a malformed line. -/
def message : LineFault → String
  | missingDo line => "expected DO in `" ++ line ++ "`"
  | unknownTest letter => "unknown test `" ++ String.ofList [letter] ++ "`"
  | misplacedJoiner test => "misplaced joiner before `" ++ test ++ "`"
  | noTest => "IF without a test"

end LineFault

/-- What can go wrong in a script. -/
inductive ScriptError where
  /-- A line does not follow the grammar. -/
  | malformedLine (fault : LineFault)
  /-- The argument of a test is none of the values it may have. -/
  | invalidArgument (value : String)
  /-- A text names no token. -/
  | unknownToken (text : String)
  /-- A test needs data that the file does not have. -/
  | missingData (what : String)
  /-- The file is not linked to any episode. -/
  | noEpisodes
  /-- A `FAIL` action was reached. -/
  | aborted
  /-- The script produced no text. -/
  | emptyName
  /-- The present name of the file has no extension to carry over; the name. -/
  | missingExtension (fileName : String)
deriving DecidableEq

namespace ScriptError

/-- What the user is told. -/
def message : ScriptError → String
  | malformedLine fault => "invalid syntax: " ++ fault.message
  | invalidArgument value => "invalid test argument: " ++ value
  | unknownToken text => "invalid test argument: unknown token `" ++ text ++ "`"
  | missingData what => "missing data: " ++ what
  | noEpisodes => "file has no linked episodes"
  | aborted => "script aborted by a FAIL action"
  | emptyName => "script produced an empty name"
  | missingExtension fileName => "unable to determine the file extension of " ++ fileName

end ScriptError

end MediaShelf
