import MediaShelf.Text.Ascii
import MediaShelf.Text.Blank

/-!
# Actions

What a line does once its tests hold. An action starts with a keyword, and what follows it up to
the end of the line belongs to it:

- `ADD` appends a template to the name. Quotes around the template, and anywhere in it, are dropped.
- `REPLACE 'a' 'b'` replaces every `a` in the name so far by `b`.
- `FAIL` gives up on the file.

Any other text, and a `REPLACE` with malformed arguments, is an action that does nothing.
-/

namespace MediaShelf

/-- The word that an action starts with. -/
inductive Keyword where
  | add
  | replace
  /-- Give up on the file. -/
  | fail
deriving DecidableEq

namespace Keyword

/-- The text of a keyword. -/
def text : Keyword → String
  | add => "ADD"
  | replace => "REPLACE"
  | fail => "FAIL"

/-- Whether a word can end before a text: at its end or at a blank. -/
def endsBefore : List Char → Bool
  | [] => true
  | c :: _ => Text.isBlankChar c

/-- Reads one keyword in any case off the front of a text. -/
def readOne? (keyword : Keyword) (cs : List Char) : Option (Keyword × List Char) :=
  match Text.dropWord keyword.text.toList cs with
  | some rest => if endsBefore rest then some (keyword, rest) else none
  | none => none

/-- Splits the keyword off an action. -/
def split? (action : List Char) : Option (Keyword × List Char) :=
  let action := Text.trimStart action
  (readOne? add action).or ((readOne? replace action).or (readOne? fail action))

end Keyword

/-- What a line does. -/
inductive Action where
  | add (template : List Char)
  /-- Replace every occurrence of a text. -/
  | replace (target replacement : List Char)
  /-- Give up on the file. -/
  | fail
  /-- Do nothing; the text as it stands in the line. -/
  | ignored (text : List Char)
deriving DecidableEq

namespace Action

/-- A text without its apostrophes. -/
def dropApostrophes (cs : List Char) : List Char :=
  cs.filter (· != '\'')

/-- Reads a text between apostrophes. -/
def readQuoted? : List Char → Option (List Char × List Char)
  | '\'' :: rest =>
    match rest.dropWhile (· != '\'') with
    | '\'' :: behind => some (rest.takeWhile (· != '\''), behind)
    | _ => none
  | _ => none

/-- Reads the two texts of a replacement, with blanks between them, and nothing else. -/
def readReplacement? (cs : List Char) : Option (List Char × List Char) := do
  let (target, rest) ← readQuoted? (Text.trimStart cs)
  match rest with
  | c :: _ =>
    if Text.isBlankChar c then
      let (replacement, rest) ← readQuoted? (Text.trimStart rest)
      if Text.isBlank rest then some (target, replacement) else none
    else none
  | [] => none

/-- Reads an action. -/
def parse (text : List Char) : Action :=
  let text := Text.trim text
  match Keyword.split? text with
  | some (.add, rest) => add (dropApostrophes (Text.trim rest))
  | some (.replace, rest) =>
    match readReplacement? rest with
    | some (target, replacement) =>
      if target.isEmpty then ignored text else replace target replacement
    | none => ignored text
  | some (.fail, _) => fail
  | none => ignored text

end Action

end MediaShelf
