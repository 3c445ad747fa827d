import MediaShelf.Json.Parser
import MediaShelf.Text.Utf8
import MediaShelf.Yaml.Gap
import MediaShelf.Yaml.Place

/-!
# Texts in YAML

A text stands between apostrophes, where only an apostrophe needs to be written twice, or between
quotes, where a backslash starts an escape, or without either. A text without marks ends in front
of a comment, of a colon that ends a key, of a row that is indented too little, and of a row that
ends the document; within brackets it also ends in front of brackets and commas.
-/

namespace MediaShelf.Yaml

/-- The characters that stand for others behind a backslash, and those that they stand for. -/
def namedEscapes : List (Char × Char) := [
  ('0', '\x00'), ('a', '\x07'), ('b', '\x08'), ('t', '\t'), ('\t', '\t'), ('n', '\n'),
  ('v', '\x0b'), ('f', '\x0c'), ('r', '\r'), ('e', '\x1b'), (' ', ' '), ('"', '"'), ('/', '/'),
  ('\\', '\\'), ('N', '\u0085'), ('_', '\u00a0'), ('L', '\u2028'), ('P', '\u2029')]

/-- How many digits the number of a character has behind the letter of an escape. -/
def escapeWidth : Char → Option Nat
  | 'x' => some 2
  | 'u' => some 4
  | 'U' => some 8
  | _ => none

/-- The number that hexadecimal digits spell. -/
def hexNumber? (digits : List Place) : Option Nat :=
  digits.foldlM (fun n digit => (Json.hexValue? digit.char).map (n * 16 + ·)) 0

/-- Reads an escape behind its backslash. -/
def readEscape : List Place → Option (Char × List Place)
  | [] => none
  | letter :: rest =>
    match escapeWidth letter.char with
    | some width =>
      if rest.length < width then none
      else
        ((hexNumber? (rest.take width)).bind Text.scalar?).map fun c => (c, rest.drop width)
    | none => (namedEscapes.lookup letter.char).map fun c => (c, rest)

/-- Reads a text up to the closing mark, given the gap in front of what follows. -/
def readQuoted (mark : Char) (gap : Gap) : Nat → List Place → Option (List Char × List Place)
  | 0, _ => none
  | _, [] => none
  | budget + 1, place :: rest =>
    if place.isSpace then readQuoted mark (gap.addBlank place.char) budget rest
    else if place.endsRow then readQuoted mark (gap.addBreak place.char) budget rest
    else if atDocumentMark (place :: rest) then none
    else if place.char = mark then
      if mark = '\'' && rest.head?.any (·.char == mark) then do
        let (text, rest) ← readQuoted mark .empty budget (rest.drop 1)
        return (gap.text ++ mark :: text, rest)
      else some (gap.text, rest)
    else if place.char = '\\' && mark = '"' then
      if rest.head?.any (·.endsRow) then do
        let (text, rest) ← readQuoted mark .joined budget (rest.drop 1)
        return (gap.text ++ text, rest)
      else do
        let (c, rest) ← readEscape rest
        let (text, rest) ← readQuoted mark .empty budget rest
        return (gap.text ++ c :: text, rest)
    else do
      let (text, rest) ← readQuoted mark .empty budget rest
      return (gap.text ++ place.char :: text, rest)

/-- The characters that structure what is in brackets. -/
def isBracket (c : Char) : Bool :=
  c == ',' || c == '[' || c == ']' || c == '\x7b' || c == '\x7d'

/-- Whether a text without marks cannot go on with the next character, whatever the layout. -/
def endsPlain (inBrackets : Bool) : List Place → Bool
  | [] => true
  | place :: rest =>
    (place.char == ':' && atWordEnd rest) || (inBrackets && isBracket place.char)

/-- Whether a colon in brackets is one that nobody can tell the meaning of. -/
def isStrayColon : List Place → Bool
  | place :: next :: _ => place.char == ':' && (isBracket next.char || next.char == '?')
  | _ => false

/-- Whether a gap leads out of a text without marks that has to be indented up to a column. -/
def endsAtGap (inBrackets : Bool) (column : Nat) (place : Place) (rest : List Place) : Bool :=
  (!inBrackets && place.column < column) || atDocumentMark (place :: rest) || place.char == '#'

/-- A text without marks, and where it ends. -/
structure PlainText where
  text : List Char
  /-- Whether it ends with a gap that goes over a row end. -/
  isBroken : Bool
  /-- What follows the gap behind it. -/
  rest : List Place

/-- Reads a text without marks, given the gap in front of what follows. A tab may not be part of the
indentation. -/
def readPlain (inBrackets : Bool) (column : Nat) (gap : Gap) : List Place → Option PlainText
  | [] => some ⟨[], gap.isBroken, []⟩
  | place :: rest =>
    if place.isSpace then
      if gap.isBroken && place.column < column && place.char == '\t' then none
      else readPlain inBrackets column (gap.addBlank place.char) rest
    else if place.endsRow then readPlain inBrackets column (gap.addBreak place.char) rest
    else if (!gap.isEmpty && endsAtGap inBrackets column place rest)
        || endsPlain inBrackets (place :: rest) then
      some ⟨[], gap.isBroken, place :: rest⟩
    else if inBrackets && isStrayColon (place :: rest) then none
    else
      (readPlain inBrackets column .empty rest).map fun plain =>
        { plain with text := gap.text ++ place.char :: plain.text }

end MediaShelf.Yaml
