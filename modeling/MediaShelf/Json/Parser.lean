import MediaShelf.Json.Basic
import MediaShelf.Text.Numeral
import MediaShelf.Text.Utf8

/-!
# Reading JSON

The reader takes exactly one value, with blanks allowed around every token, and nothing of what
JSON leaves out: no byte order mark, no comments, no trailing commas, no leading zeros.

Each reader takes the front off a list of characters and gives the rest. Values nest, so the
readers of values recurse on a budget. Every nested reader has at least one character less in front
of it, so a budget of the length of the text is enough and `parse` hides it.
-/

namespace MediaShelf.Json

/-- The blanks between tokens. -/
def isSpace (c : Char) : Bool :=
  c == ' ' || c == '\n' || c == '\r' || c == '\t'

/-- Passes over blanks. -/
def skipSpace (cs : List Char) : List Char :=
  cs.dropWhile isSpace

/-- A piece of a string: a character as it stands, or an escaped sixteen-bit unit. -/
inductive StringPiece where
  /-- A character that stands for itself or is named by a letter, as in `\n`. -/
  | char (c : Char)
  /-- A unit that is escaped by its number. -/
  | unit (n : Nat)
deriving DecidableEq, Repr

/-- The value of a hexadecimal digit. -/
def hexValue? (c : Char) : Option Nat :=
  if '0' ≤ c && c ≤ '9' then some (c.toNat - '0'.toNat)
  else if 'a' ≤ c && c ≤ 'f' then some (c.toNat - 'a'.toNat + 10)
  else if 'A' ≤ c && c ≤ 'F' then some (c.toNat - 'A'.toNat + 10)
  else none

/-- The number that four hexadecimal digits spell. -/
def unitValue? (a b c d : Char) : Option Nat := do
  let a ← hexValue? a
  let b ← hexValue? b
  let c ← hexValue? c
  let d ← hexValue? d
  return ((a * 16 + b) * 16 + c) * 16 + d

/-- The character that a backslash and a letter stand for. -/
def namedEscape? (c : Char) : Option Char :=
  if c = '"' ∨ c = '\\' ∨ c = '/' then some c
  else if c = 'b' then some '\x08'
  else if c = 'f' then some '\x0c'
  else if c = 'n' then some '\n'
  else if c = 'r' then some '\r'
  else if c = 't' then some '\t'
  else none

/-- Reads the pieces of a string up to its closing quote. A control code has to be escaped. -/
def readPieces : List Char → Option (List StringPiece × List Char)
  | [] => none
  | '"' :: rest => some ([], rest)
  | '\\' :: 'u' :: a :: b :: c :: d :: rest => do
    let n ← unitValue? a b c d
    let (pieces, rest) ← readPieces rest
    return (.unit n :: pieces, rest)
  | ['\\'] => none
  | '\\' :: e :: rest => do
    let c ← namedEscape? e
    let (pieces, rest) ← readPieces rest
    return (.char c :: pieces, rest)
  | c :: rest =>
    if c.toNat < 0x20 then none
    else do
      let (pieces, rest) ← readPieces rest
      return (.char c :: pieces, rest)

/-- The first half of a surrogate pair. -/
def isLeading (n : Nat) : Bool :=
  0xD800 ≤ n && n < 0xDC00

/-- The second half of a surrogate pair. -/
def isTrailing (n : Nat) : Bool :=
  0xDC00 ≤ n && n < 0xE000

/-- The text that the pieces of a string stand for; none if half of a surrogate pair is alone. -/
def joinPieces : List StringPiece → Option (List Char)
  | [] => some []
  | .char c :: rest => (joinPieces rest).map (c :: ·)
  | .unit n :: .unit m :: rest =>
    if isLeading n then
      if isTrailing m then
        (joinPieces rest).map (Char.ofNat (0x10000 + (n - 0xD800) * 0x400 + (m - 0xDC00)) :: ·)
      else none
    else if isTrailing n then none
    else (joinPieces (.unit m :: rest)).map (Char.ofNat n :: ·)
  | .unit n :: rest =>
    if isLeading n || isTrailing n then none else (joinPieces rest).map (Char.ofNat n :: ·)

/-- Reads a string behind its opening quote: a string value, or `unreadable`. -/
def readString (cs : List Char) : Option (Json × List Char) := do
  let (pieces, rest) ← readPieces cs
  match joinPieces pieces with
  | some text => return (.str (String.ofList text), rest)
  | none => return (.unreadable, rest)

/-- Reads the key of a member behind its opening quote, and the text of it if there is one. -/
def readKey (cs : List Char) : Option (Option String × List Char) := do
  let (pieces, rest) ← readPieces cs
  return ((joinPieces pieces).map String.ofList, rest)

/-- A member whose key stands for a text. -/
def member? : Option String × Json → Option (String × Json)
  | (some key, value) => some (key, value)
  | (none, _) => none

/-- The object with some members, unless the key of one of them stands for no text. -/
def objectOf (members : List (Option String × Json)) : Json :=
  match members.mapM member? with
  | some members => .obj members
  | none => .unreadable

/-- Reads the digits at the front of a text. -/
def spanDigits : List Char → List Char × List Char
  | [] => ([], [])
  | c :: rest =>
    if Text.isAsciiDigit c then
      let (digits, rest) := spanDigits rest
      (c :: digits, rest)
    else ([], c :: rest)

/-- Reads at least one digit. -/
def readDigits1 (cs : List Char) : Option (List Char × List Char) :=
  let (digits, rest) := spanDigits cs
  if digits.isEmpty then none else some (digits, rest)

/-- Reads the fraction of a number with its point, if there is one. -/
def readFraction : List Char → Option (List Char × List Char)
  | '.' :: rest => (readDigits1 rest).map fun (digits, rest) => ('.' :: digits, rest)
  | rest => some ([], rest)

/-- Reads the exponent of a number with its letter, if there is one. -/
def readExponent : List Char → Option (List Char × List Char)
  | [] => some ([], [])
  | e :: rest =>
    if e = 'e' ∨ e = 'E' then
      match rest with
      | '+' :: rest => (readDigits1 rest).map fun (digits, rest) => (e :: '+' :: digits, rest)
      | '-' :: rest => (readDigits1 rest).map fun (digits, rest) => (e :: '-' :: digits, rest)
      | rest => (readDigits1 rest).map fun (digits, rest) => (e :: digits, rest)
    else some ([], e :: rest)

/-- The number with the given parts of its spelling. -/
def number (negative : Bool) (digits fraction exponent : List Char) : Json :=
  let value := Text.digitsValue digits
  if fraction.isEmpty && exponent.isEmpty && !(negative && value == 0) then
    .int (if negative then -Int.ofNat value else Int.ofNat value)
  else
    .decimal (String.ofList
      ((if negative then ['-'] else []) ++ digits ++ fraction ++ exponent))

/-- Reads a number without its sign. A leading zero stands alone. -/
def readMagnitude (negative : Bool) (cs : List Char) : Option (Json × List Char) := do
  let (digits, rest) ← readDigits1 cs
  if digits.head? = some '0' && digits.length > 1 then none
  else
    let (fraction, rest) ← readFraction rest
    let (exponent, rest) ← readExponent rest
    return (number negative digits fraction exponent, rest)

/-- Reads a number. -/
def readNumber : List Char → Option (Json × List Char)
  | '-' :: rest => readMagnitude true rest
  | rest => readMagnitude false rest

mutual

/-- Reads one value. -/
def readValue : Nat → List Char → Option (Json × List Char)
  | 0, _ => none
  | budget + 1, cs =>
    match skipSpace cs with
    | 'n' :: 'u' :: 'l' :: 'l' :: rest => some (.null, rest)
    | 't' :: 'r' :: 'u' :: 'e' :: rest => some (.bool true, rest)
    | 'f' :: 'a' :: 'l' :: 's' :: 'e' :: rest => some (.bool false, rest)
    | '"' :: rest => readString rest
    | '[' :: rest =>
      match skipSpace rest with
      | ']' :: rest => some (.arr [], rest)
      | rest => do
        let (item, rest) ← readValue budget rest
        let (items, rest) ← readItems budget rest
        return (.arr (item :: items), rest)
    | '\x7b' :: rest =>
      match skipSpace rest with
      | '\x7d' :: rest => some (.obj [], rest)
      | rest => do
        let (member, rest) ← readMember budget rest
        let (members, rest) ← readMembers budget rest
        return (objectOf (member :: members), rest)
    | rest => readNumber rest

/-- Reads the items of an array behind its first, and the closing bracket. -/
def readItems : Nat → List Char → Option (List Json × List Char)
  | 0, _ => none
  | budget + 1, cs =>
    match skipSpace cs with
    | ']' :: rest => some ([], rest)
    | ',' :: rest => do
      let (item, rest) ← readValue budget rest
      let (items, rest) ← readItems budget rest
      return (item :: items, rest)
    | _ => none

/-- Reads one member of an object. -/
def readMember : Nat → List Char → Option ((Option String × Json) × List Char)
  | 0, _ => none
  | budget + 1, cs =>
    match skipSpace cs with
    | '"' :: rest => do
      let (key, rest) ← readKey rest
      match skipSpace rest with
      | ':' :: rest =>
        let (value, rest) ← readValue budget rest
        return ((key, value), rest)
      | _ => none
    | _ => none

/-- Reads the members of an object behind its first, and the closing brace. -/
def readMembers : Nat → List Char → Option (List (Option String × Json) × List Char)
  | 0, _ => none
  | budget + 1, cs =>
    match skipSpace cs with
    | '\x7d' :: rest => some ([], rest)
    | ',' :: rest => do
      let (member, rest) ← readMember budget rest
      let (members, rest) ← readMembers budget rest
      return (member :: members, rest)
    | _ => none

end

/-- Reads a text that holds exactly one value. -/
def parse (text : List Char) : Option Json :=
  match readValue (2 * text.length + 2) text with
  | some (value, rest) => if (skipSpace rest).isEmpty then some value else none
  | none => none

/-- Reads a string that holds exactly one value. -/
def parse? (text : String) : Option Json :=
  parse text.toList

/-- What stands for a byte that is no part of a text. In a string, its escape is half of a surrogate
pair and lacks the other half on either side; behind a backslash or outside of strings, its first
character fits in nowhere. -/
def blot : List Char :=
  "\ufffd\\udc00".toList

/-- Reads bytes that hold exactly one value. Bytes that are no text can only be in strings. -/
def parseBytes? (bytes : List UInt8) : Option Json :=
  parse (Text.decodeWith blot bytes)

end MediaShelf.Json
