import MediaShelf.Script.Error
import MediaShelf.Text.Blank
import MediaShelf.Text.Numeral

/-!
# Arguments of tests

The text between the parentheses of a test is an operator and a value. Tests of numbers take
`!`, `>`, `>=`, `<` or `<=`; where an inequality follows `!`, the `!` has no meaning. The other
tests take `!` alone, and for them the characters of an inequality belong to the value. Blanks
around the operator and the value are dropped.
-/

namespace MediaShelf

/-- How a value is compared with what a file has. -/
inductive Operator where
  | equal
  /-- Not equal to the value. -/
  | notEqual
  | greater
  /-- Greater than the value or equal to it. -/
  | greaterOrEqual
  | less
  /-- Less than the value or equal to it. -/
  | lessOrEqual
deriving DecidableEq

/-- An operator and a value. -/
structure Argument where
  operator : Operator
  value : String
deriving DecidableEq

namespace Argument

/-- Whether a text without the blanks around it starts with `!`, and what it is without that. -/
def splitNegation (text : List Char) : Bool × List Char :=
  match Text.trim text with
  | '!' :: rest => (true, Text.trimStart rest)
  | rest => (false, rest)

/-- The operator of an equality, or of its negation. -/
def equalityOperator (negated : Bool) : Operator :=
  if negated then .notEqual else .equal

/-- Splits an inequality off the front of a text. -/
def splitInequality (negated : Bool) : List Char → Operator × List Char
  | '>' :: '=' :: rest => (.greaterOrEqual, rest)
  | '>' :: rest => (.greater, rest)
  | '<' :: '=' :: rest => (.lessOrEqual, rest)
  | '<' :: rest => (.less, rest)
  | rest => (equalityOperator negated, rest)

/-- Reads an argument that may be an inequality. -/
def relational (text : List Char) : Argument :=
  let (negated, rest) := splitNegation text
  let (operator, rest) := splitInequality negated rest
  ⟨operator, String.ofList (Text.trim rest)⟩

/-- Reads an argument that is an equality or its negation. -/
def equality (text : List Char) : Argument :=
  let (negated, rest) := splitNegation text
  ⟨equalityOperator negated, String.ofList (Text.trim rest)⟩

/-- The value as a number in a range. -/
def number (argument : Argument) (range : Text.NumberRange) : Except ScriptError Int :=
  match Text.readNumeral range argument.value.toList with
  | some n => .ok n
  | none => .error (.invalidArgument argument.value)

/-- Compares what a file has with an expected number. -/
def compare (argument : Argument) (actual expected : Int) : Bool :=
  match argument.operator with
  | .equal => actual == expected
  | .notEqual => actual != expected
  | .greater => expected < actual
  | .greaterOrEqual => expected ≤ actual
  | .less => actual < expected
  | .lessOrEqual => actual ≤ expected

/-- Whether an equality test holds, given whether the file has the value. -/
def holds (argument : Argument) (found : Bool) : Bool :=
  if argument.operator = .notEqual then !found else found

/-- Compares what a file has with the value, which has to be a number in the same range. -/
def compareNumber (argument : Argument) (range : Text.NumberRange) (actual : Int) :
    Except ScriptError Bool :=
  (argument.number range).map (argument.compare actual)

end Argument

end MediaShelf
