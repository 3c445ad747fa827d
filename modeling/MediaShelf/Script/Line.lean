import MediaShelf.Script.Action
import MediaShelf.Script.Condition
import MediaShelf.Text.Search

/-!
# Lines

A line is an action, which tests may guard:

    line   := "DO" action | "IF" test (joiner test)* "DO" action
    joiner := ";" | ","

The joiners do not nest. As soon as a line has a test behind `;`, the first test and all of those
have to pass, and the tests behind `,` have no say. Otherwise one test that passes is enough.

Blanks are allowed everywhere but inside of words, `//` starts a comment, and the case of keywords
and letters has no meaning. A line without anything but a comment is no line.
-/

namespace MediaShelf

/-- How a test is joined to those before it. -/
inductive Joiner where
  /-- By `;`: all of them have to pass. -/
  | all
  /-- By `,`: one of them has to pass. -/
  | any
deriving DecidableEq

/-- A test as it is written: the letter may be none of a test, and the joiner out of place. -/
structure WrittenTest where
  joiner : Option Joiner
  letter : Char
  /-- The text between the parentheses. -/
  argument : List Char
deriving DecidableEq

namespace WrittenTest

/-- Reads a joiner, if there is one. -/
def readJoiner : List Char → Option Joiner × List Char
  | ';' :: rest => (some .all, rest)
  | ',' :: rest => (some .any, rest)
  | rest => (none, rest)

/-- Reads an argument with its parentheses. -/
def readArgument? : List Char → Option (List Char × List Char)
  | '(' :: rest =>
    match rest.dropWhile (· != ')') with
    | _ :: behind => some (rest.takeWhile (· != ')'), behind)
    | [] => none
  | _ => none

/-- Reads a letter and an argument. -/
def readLetter? (joiner : Option Joiner) : List Char → Option (WrittenTest × List Char)
  | c :: rest =>
    if Text.isAsciiLetter c then
      (readArgument? (Text.trimStart rest)).map fun (argument, rest) =>
        (⟨joiner, c, argument⟩, rest)
    else none
  | [] => none

/-- Reads a test off the front of a text. -/
def read? (cs : List Char) : Option (WrittenTest × List Char) :=
  let joined := readJoiner (Text.trimStart cs)
  readLetter? joined.1 (Text.trimStart joined.2)

theorem trimStart_length_le (cs : List Char) : (Text.trimStart cs).length ≤ cs.length :=
  (List.dropWhile_sublist _).length_le

theorem readJoiner_length_le (cs : List Char) : (readJoiner cs).2.length ≤ cs.length := by
  unfold readJoiner
  split <;> simp

theorem readArgument?_length_lt {cs argument rest : List Char}
    (h : readArgument? cs = some (argument, rest)) : rest.length < cs.length := by
  unfold readArgument? at h
  split at h
  · rename_i tail
    split at h
    · rename_i c behind heq
      have hle := (List.dropWhile_sublist (l := tail) (· != ')')).length_le
      rw [heq] at hle
      simp only [Option.some.injEq, Prod.mk.injEq] at h
      obtain ⟨-, rfl⟩ := h
      simp only [List.length_cons] at hle ⊢
      omega
    · exact absurd h (by simp)
  · exact absurd h (by simp)

theorem readLetter?_length_lt {joiner : Option Joiner} {cs rest : List Char} {test : WrittenTest}
    (h : readLetter? joiner cs = some (test, rest)) : rest.length < cs.length := by
  match cs with
  | [] => exact absurd h (by simp [readLetter?])
  | c :: tail =>
      rw [readLetter?] at h
      split at h
      · obtain ⟨⟨argument, behind⟩, hread, heq⟩ := Option.map_eq_some_iff.1 h
        have hlt := readArgument?_length_lt hread
        have hle := trimStart_length_le tail
        simp only [Prod.mk.injEq] at heq
        obtain ⟨-, rfl⟩ := heq
        simp only [List.length_cons]
        omega
      · exact absurd h (by simp)

/-- A test takes at least a character off the text. -/
theorem read?_length_lt {cs rest : List Char} {test : WrittenTest}
    (h : read? cs = some (test, rest)) : rest.length < cs.length := by
  have hlt := readLetter?_length_lt h
  have h1 := trimStart_length_le (readJoiner (Text.trimStart cs)).2
  have h2 := readJoiner_length_le (Text.trimStart cs)
  have h3 := trimStart_length_le cs
  omega

/-- Reads tests as long as there are any, and gives what follows them. -/
def readAll (cs : List Char) : List WrittenTest × List Char :=
  match h : read? cs with
  | some (test, rest) =>
    have := read?_length_lt h
    let (tests, rest) := readAll rest
    (test :: tests, rest)
  | none => ([], cs)
termination_by cs.length

end WrittenTest

/-- The tests of a line, by how they are joined. -/
structure Expression where
  /-- The first test; a line without tests has none. -/
  first : Option Condition := none
  /-- The tests joined by `;`. -/
  all : List Condition := []
  /-- The tests joined by `,`. -/
  any : List Condition := []
deriving DecidableEq

namespace Expression

/-- Whether the tests pass. -/
def holds (expression : Expression) (ctx : NamingContext) : Bool :=
  match expression.first with
  | none => true
  | some first =>
    if expression.all.isEmpty then
      first.evaluate ctx || expression.any.any (·.evaluate ctx)
    else first.evaluate ctx && expression.all.all (·.evaluate ctx)

/-- Adds a test behind the others. The first one has no joiner in front, and every other one has. -/
def join (expression : Expression) (joiner : Option Joiner) (condition : Condition) :
    Except LineFault Expression :=
  match expression.first, joiner with
  | none, none => .ok { expression with first := some condition }
  | some _, some .all => .ok { expression with all := expression.all ++ [condition] }
  | some _, some .any => .ok { expression with any := expression.any ++ [condition] }
  | _, _ => .error (.misplacedJoiner condition.text)

/-- Adds a test as it is written. -/
def add (expression : Expression) (written : WrittenTest) : Except LineFault Expression :=
  match Test.ofLetter? written.letter with
  | some test => expression.join written.joiner ⟨test, String.ofList written.argument⟩
  | none => .error (.unknownTest written.letter)

/-- Adds several tests, up to the first fault. -/
def addAll (expression : Expression) : List WrittenTest → Except LineFault Expression
  | [] => .ok expression
  | written :: rest =>
    match expression.add written with
    | .ok expression => expression.addAll rest
    | .error fault => .error fault

/-- The tests behind `IF`; there has to be one. -/
def ofTests (tests : List WrittenTest) : Except LineFault Expression :=
  match addAll {} tests with
  | .ok expression => if expression.first.isNone then .error .noTest else .ok expression
  | .error fault => .error fault

end Expression

/-- A line of a script. -/
structure Line where
  /-- The place of the line in the script, from 1. -/
  number : Nat
  /-- The tests that guard the action. -/
  expression : Expression
  action : Action
deriving DecidableEq

namespace Line

/-- What starts a comment. -/
def commentMark : List Char := ['/', '/']

/-- What follows `IF` and at least one blank. -/
def afterIf? (cs : List Char) : Option (List Char) :=
  match Text.dropWord ['I', 'F'] (Text.trimStart cs) with
  | some (c :: rest) => if Text.isBlankChar c then some (Text.trimStart rest) else none
  | _ => none

/-- What follows `DO`, which ends at a blank or at the end of the text. -/
def afterDo? (cs : List Char) : Option (List Char) :=
  match Text.dropWord ['D', 'O'] (Text.trimStart cs) with
  | some rest => if Keyword.endsBefore rest then some (Text.trimStart rest) else none
  | none => none

/-- Splits the tests off a text; without `IF` there are none. -/
def splitTests (text : List Char) : Except LineFault (Expression × List Char) :=
  match afterIf? text with
  | some rest =>
    let (tests, rest) := WrittenTest.readAll rest
    (Expression.ofTests tests).map fun expression => (expression, rest)
  | none => .ok ({}, text)

/-- Reads a text that is not blank and has no comment. -/
def parseContent (number : Nat) (text : List Char) : Except LineFault Line :=
  match splitTests text with
  | .ok (expression, rest) =>
    match afterDo? rest with
    | some action => .ok ⟨number, expression, Action.parse action⟩
    | none => .error (.missingDo (String.ofList (Text.trim text)))
  | .error fault => .error fault

/-- Reads a line. A blank text, or one with nothing but a comment, is no line. -/
def parse (number : Nat) (text : List Char) : Except LineFault (Option Line) :=
  let text := Text.before commentMark text
  if Text.isBlank text then .ok none else (parseContent number text).map some

end Line

end MediaShelf
