import MediaShelf.Json.Parser
import MediaShelf.Text.Utf8

/-!
# Texts in TOML

A text stands between quotes, where a backslash starts an escape, or between apostrophes, where
every character stands for itself. Three quotes or apostrophes in a row enclose a text of several
rows: a row end right behind the opening marks is dropped, and so are, behind a backslash at the end
of a row, all blanks and row ends up to the next character. Up to two marks may stand in front of
the closing ones and belong to the text.
-/

namespace MediaShelf.Toml

/-- The blanks inside of a row. -/
def isSpace (c : Char) : Bool :=
  c == ' ' || c == '\t'

/-- Passes over blanks. -/
def skipSpace (cs : List Char) : List Char :=
  cs.dropWhile isSpace

/-- The characters that may not stand in a row as themselves. -/
def isForbidden (c : Char) : Bool :=
  (c.toNat < 0x20 && c != '\t') || c.toNat == 0x7F

/-- Reads the end of a row. -/
def readRowEnd? : List Char → Option (List Char)
  | '\n' :: rest => some rest
  | '\r' :: '\n' :: rest => some rest
  | _ => none

/-- The number that eight hexadecimal digits spell. -/
def longValue? (a b c d e f g h : Char) : Option Nat := do
  return (← Json.unitValue? a b c d) * 65536 + (← Json.unitValue? e f g h)

/-- Reads an escape behind its backslash. -/
def readEscape : List Char → Option (Char × List Char)
  | 'u' :: a :: b :: c :: d :: rest => do
    return (← Text.scalar? (← Json.unitValue? a b c d), rest)
  | 'U' :: a :: b :: c :: d :: e :: f :: g :: h :: rest => do
    return (← Text.scalar? (← longValue? a b c d e f g h), rest)
  | '/' :: _ => none
  | e :: rest => (Json.namedEscape? e).map fun c => (c, rest)
  | [] => none

/-- Reads a text between quotes up to the closing one. -/
def readBasic : Nat → List Char → Option (List Char × List Char)
  | 0, _ => none
  | _, [] => none
  | _, '"' :: rest => some ([], rest)
  | budget + 1, '\\' :: rest => do
    let (c, rest) ← readEscape rest
    let (text, rest) ← readBasic budget rest
    return (c :: text, rest)
  | budget + 1, c :: rest =>
    if isForbidden c then none
    else do
      let (text, rest) ← readBasic budget rest
      return (c :: text, rest)

/-- Reads a text between apostrophes up to the closing one. -/
def readLiteral (cs : List Char) : Option (List Char × List Char) :=
  let text := cs.takeWhile (· != '\'')
  match cs.dropWhile (· != '\'') with
  | _ :: rest => if text.any isForbidden then none else some (text, rest)
  | [] => none

/-- The text and the rest of a document where marks occur in a row of at least three: all but the
last three belong to the text, of at most five. -/
def closeRows (mark : Char) (cs : List Char) : Option (List Char × List Char) :=
  let marks := (cs.takeWhile (· == mark)).take 5
  if marks.length < 3 then none else some (marks.drop 3, cs.drop marks.length)

/-- Drops the blanks and row ends that a text starts with. -/
def skipRows : Nat → List Char → List Char
  | 0, cs => cs
  | budget + 1, cs =>
    match readRowEnd? (skipSpace cs) with
    | some rest => skipRows budget rest
    | none => skipSpace cs

/-- Reads a text of several rows up to the closing marks. -/
def readRows (mark : Char) : Nat → List Char → Option (List Char × List Char)
  | 0, _ => none
  | _, [] => none
  | budget + 1, c :: rest =>
    match closeRows mark (c :: rest), readRowEnd? (c :: rest) with
    | some closed, _ => some closed
    | none, some rest => do
      let (text, rest) ← readRows mark budget rest
      return ('\n' :: text, rest)
    | none, none =>
      if c = '\\' && mark = '"' then
        match readRowEnd? (skipSpace rest) with
        | some rest => readRows mark budget (skipRows budget rest)
        | none => do
          let (c, rest) ← readEscape rest
          let (text, rest) ← readRows mark budget rest
          return (c :: text, rest)
      else if isForbidden c then none
      else do
        let (text, rest) ← readRows mark budget rest
        return (c :: text, rest)

/-- Drops the row end that a text of several rows starts with. -/
def dropFirstRowEnd (cs : List Char) : List Char :=
  (readRowEnd? cs).getD cs

/-- Reads a text, if there is one at the front. -/
def readText (cs : List Char) : Option (List Char × List Char) :=
  match cs with
  | '"' :: '"' :: '"' :: rest => readRows '"' cs.length (dropFirstRowEnd rest)
  | '\'' :: '\'' :: '\'' :: rest => readRows '\'' cs.length (dropFirstRowEnd rest)
  | '"' :: rest => readBasic cs.length rest
  | '\'' :: rest => readLiteral rest
  | _ => none

/-- Whether a text starts with a mark that opens a text. -/
def startsText : List Char → Bool
  | c :: _ => c == '"' || c == '\''
  | [] => false

end MediaShelf.Toml
