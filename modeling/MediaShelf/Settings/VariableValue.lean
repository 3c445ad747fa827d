import MediaShelf.Text.Blank
import MediaShelf.Text.Decimal
import MediaShelf.Toml.Text

/-!
# Values of variables

The value of an environment variable is a text, but it may spell a truth value, a number, a text in
quotes, a single character in apostrophes, a list in brackets or a table in braces. What spells none
of these is the text without the blanks around it. If more follows where a value has ended, the
whole is a text as it stands.

What is in front of the first escape in quotes is cut to as many bytes as it has characters. Nothing
is lost if all of them are ASCII. A text that is torn, because the cut goes through a character,
cannot be read at all, and neither can the variable.
-/

namespace MediaShelf.VariableValue

/-- The blanks around values and keys. -/
def isSpace (c : Char) : Bool :=
  c == ' ' || c == '\t' || c == '\n' || c == '\x0c' || c == '\r'

/-- Passes over blanks. -/
def skipSpace (cs : List Char) : List Char :=
  cs.dropWhile isSpace

/-- The characters that a value without quotes does not contain. -/
def isBracket (c : Char) : Bool :=
  c == ',' || c == '\x7b' || c == '\x7d' || c == '[' || c == ']'

/-- The whole numbers below zero that there are, and those above. -/
def range : Text.NumberRange := ⟨-9223372036854775808, 18446744073709551615⟩

/-- Reads a whole number. -/
def readInteger (cs : List Char) : Option Int :=
  match Text.readNumeral .long cs with
  | some n => some n
  | none => Text.readNumeral range cs

/-- The value of a word. -/
def ofWord (word : List Char) : Json :=
  if word.contains '.' && Text.isDecimal word then .decimal (String.ofList word)
  else
    match readInteger word with
    | some n => .int n
    | none => .str (String.ofList word)

/-- The characters of a key without quotes. -/
def isKeyChar (c : Char) : Bool :=
  Text.isAsciiAlphanumeric c || c == '_' || c == '-'

/-- Why there is no value to be read. -/
inductive Fault where
  | malformed
  /-- A text is torn. -/
  | torn
deriving DecidableEq, Repr

/-- The text between quotes up to the closing one, and what follows it. -/
def splitQuoted : List Char → Option (List Char × List Char)
  | [] => none
  | '"' :: rest => some ([], rest)
  | '\\' :: c :: rest => (splitQuoted rest).map fun (text, rest) => ('\\' :: c :: text, rest)
  | c :: rest => (splitQuoted rest).map fun (text, rest) => (c :: text, rest)

/-- The characters that take up so many bytes at the front of a text, unless a cut behind these
bytes goes through a character. -/
def cut : Nat → List Char → Option (List Char)
  | 0, _ => some []
  | _, [] => some []
  | size + 1, c :: rest =>
    if c.utf8Size ≤ size + 1 then (cut (size + 1 - c.utf8Size) rest).map (c :: ·) else none

/-- The text that is written between quotes. -/
def unescape (written : List Char) : Except Fault (List Char) :=
  let plain := written.takeWhile (· != '\\')
  let escaped := written.dropWhile (· != '\\')
  if plain.any Toml.isForbidden then .error .malformed
  else if escaped.isEmpty then .ok plain
  else
    match cut plain.length plain, Toml.readBasic (escaped.length + 1) (escaped ++ ['"']) with
    | none, _ => .error .torn
    | some front, some (text, []) => .ok (front ++ text)
    | some _, _ => .error .malformed

/-- Reads a text behind its opening quote. -/
def readQuoted (cs : List Char) : Except Fault (String × List Char) :=
  match splitQuoted cs with
  | some (written, rest) => (unescape written).map fun text => (String.ofList text, rest)
  | none => .error .malformed

/-- Reads a key of a table. -/
def readKey (cs : List Char) : Except Fault (String × List Char) :=
  match cs with
  | '"' :: rest => readQuoted rest
  | cs =>
    let key := cs.takeWhile isKeyChar
    if key.isEmpty then .error .malformed else .ok (String.ofList key, cs.dropWhile isKeyChar)

mutual

/-- Reads a value behind the blanks in front of it. -/
def readBare : Nat → List Char → Except Fault (Json × List Char)
  | 0, _ => .error .malformed
  | budget + 1, cs =>
    match cs with
    | 't' :: 'r' :: 'u' :: 'e' :: rest => .ok (.bool true, rest)
    | 'f' :: 'a' :: 'l' :: 's' :: 'e' :: rest => .ok (.bool false, rest)
    | '\x7b' :: rest =>
      (readMembers budget rest).map fun (members, rest) => (.obj members, rest)
    | '[' :: rest => (readItems budget rest).map fun (items, rest) => (.arr items, rest)
    | '"' :: rest => (readQuoted rest).map fun (text, rest) => (.str text, rest)
    | '\'' :: c :: '\'' :: rest => .ok (.str (String.ofList [c]), rest)
    | '\'' :: _ => .error .malformed
    | cs =>
      .ok (ofWord (Text.trim (cs.takeWhile fun c => !isBracket c)),
        cs.dropWhile fun c => !isBracket c)

/-- Reads a value with the blanks around it. -/
def readValue : Nat → List Char → Except Fault (Json × List Char)
  | 0, _ => .error .malformed
  | budget + 1, cs =>
    (readBare budget (skipSpace cs)).map fun (value, rest) => (value, skipSpace rest)

/-- Reads the items of a list up to the closing bracket. A comma may follow the last of them. -/
def readItems : Nat → List Char → Except Fault (List Json × List Char)
  | 0, _ => .error .malformed
  | budget + 1, cs =>
    match cs with
    | ']' :: rest => .ok ([], rest)
    | cs => do
      let (item, rest) ← readValue budget cs
      match rest with
      | ',' :: rest =>
        let (items, rest) ← readItems budget rest
        return (item :: items, rest)
      | ']' :: rest => return ([item], rest)
      | _ => .error .malformed

/-- Reads the members of a table up to the closing brace. A comma may follow the last of them. -/
def readMembers :
    Nat → List Char → Except Fault (List (String × Json) × List Char)
  | 0, _ => .error .malformed
  | budget + 1, cs =>
    match cs with
    | '\x7d' :: rest => .ok ([], rest)
    | cs => do
      let (key, rest) ← readKey (skipSpace cs)
      match skipSpace rest with
      | '=' :: rest =>
        let (value, rest) ← readValue budget rest
        match rest with
        | ',' :: rest =>
          let (members, rest) ← readMembers budget rest
          return ((key, value) :: members, rest)
        | '\x7d' :: rest => return ([(key, value)], rest)
        | _ => .error .malformed
      | _ => .error .malformed

end

/-- The value that a text spells, unless it has a torn text in it. -/
def parse? (text : String) : Option Json :=
  match readValue (3 * text.length + 3) text.toList with
  | .ok (value, []) => some value
  | .ok _ => some (.str text)
  | .error .malformed => some (.str text)
  | .error .torn => none

end MediaShelf.VariableValue
