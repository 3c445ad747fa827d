import MediaShelf.Yaml.BlockText
import MediaShelf.Yaml.Directive
import MediaShelf.Yaml.Name
import MediaShelf.Yaml.Text

/-!
# Tokens of YAML

The layout of a document is turned into tokens that open and close blocks, so that what is behind it
does not depend on rows and columns any more. A block opens where a row is indented further than the
block around it, and closes where a row is indented less.

That a text or a list is the key of a mapping shows only at the colon behind it, which has to be in
the same row and not too far away. So wherever a key may stand, the place in the list of tokens is
remembered as a candidate, and the colon puts the tokens of the key there afterwards. Where a row
starts a further entry of the block it is in, there has to be a key.
-/

namespace MediaShelf.Yaml

/-- A token. -/
inductive Token where
  /-- The row that opens a document. -/
  | documentStart
  /-- The row that closes a document. -/
  | documentEnd
  /-- A list opens by indentation. -/
  | blockList
  /-- A mapping opens by indentation. -/
  | blockMapping
  /-- A list or mapping closes by indentation. -/
  | blockEnd
  /-- An item of a list follows. -/
  | item
  | key
  | value
  /-- A list opens by a bracket. -/
  | openList
  /-- A list closes by a bracket. -/
  | closeList
  /-- A mapping opens by a brace. -/
  | openMapping
  /-- A mapping closes by a brace. -/
  | closeMapping
  | comma
  /-- A row in front of a document. -/
  | directive (directive : Directive)
  /-- A node follows whose name has a number. -/
  | anchor (number : Nat)
  /-- A node whose name has a number. -/
  | reference (number : Nat)
  /-- A node with a tag follows. -/
  | tag (tag : Tag)
  /-- A text, and whether it stands without marks. -/
  | text (isPlain : Bool) (cs : List Char)
deriving DecidableEq

/-- A place where a key may have started. -/
structure Candidate where
  row : Nat
  column : Nat
  /-- Whether there has to be a key. -/
  isRequired : Bool
  /-- How many tokens are in front of it. -/
  position : Nat
deriving DecidableEq

/-- How many characters may be between the start of a key and its colon. -/
def keyLimit : Nat := 1024

/-- Whether a colon at a place is too far away from a candidate. -/
def Candidate.isStale (candidate : Candidate) (place : Place) : Bool :=
  candidate.row < place.row || candidate.column + keyLimit < place.column

/-- A reader of tokens on its way through a document. -/
structure Scanner where
  /-- What is left of the document. -/
  rest : List Place
  /-- The columns of the open blocks, the innermost first. -/
  blocks : List Nat := []
  /-- The candidates, for what is between the innermost brackets first, and for what is outside of
  all brackets last. -/
  candidates : List (Option Candidate) := [none]
  /-- Whether a key may start here. -/
  mayStartKey : Bool := true
  /-- The tokens so far, the last one first. -/
  tokens : List Token := []
  /-- What the handles of tags stand for. -/
  handles : Handles := usualHandles
  /-- The names of nodes so far. -/
  names : Names := []

namespace Scanner

/-- Whether the reader is between brackets. -/
def inBrackets (scanner : Scanner) : Bool :=
  scanner.candidates.length > 1

/-- Adds a token. -/
def push (scanner : Scanner) (token : Token) : Scanner :=
  { scanner with tokens := token :: scanner.tokens }

/-- Puts a token behind the first tokens. -/
def insertAt (scanner : Scanner) (position : Nat) (token : Token) : Scanner :=
  let { tokens, .. } := scanner
  { scanner with tokens := tokens.insertIdx (tokens.length - position) token }

/-- Passes over blanks, comments and row ends, and tells whether a key may start behind them. A tab
is no blank where a key may start. -/
def skipGap (inBrackets inComment mayStartKey : Bool) : List Place → Bool × List Place
  | [] => (mayStartKey, [])
  | place :: rest =>
    if place.endsRow then skipGap inBrackets false (mayStartKey || !inBrackets) rest
    else if inComment || place.char == ' '
        || (place.char == '\t' && (inBrackets || !mayStartKey))
        || (place.char == '\ufeff' && place.column == 0) then
      skipGap inBrackets inComment mayStartKey rest
    else if place.char == '#' then skipGap inBrackets true mayStartKey rest
    else (mayStartKey, place :: rest)

/-- Goes on to the next token. -/
def skip (scanner : Scanner) : Scanner :=
  let (mayStartKey, rest) :=
    skipGap scanner.inBrackets false scanner.mayStartKey scanner.rest
  { scanner with mayStartKey, rest }

/-- A candidate for a colon at a place. One that has to be a key may not be too far away. -/
def refresh (place : Place) : Option Candidate → Option (Option Candidate)
  | none => some none
  | some candidate =>
    if candidate.isStale place then
      if candidate.isRequired then none else some none
    else some (some candidate)

/-- Gives up the candidates that are too far away from a place. -/
def dropStale (scanner : Scanner) (place : Place) : Option Scanner :=
  (scanner.candidates.mapM (refresh place)).map fun candidates => { scanner with candidates }

/-- Gives up the innermost candidate. -/
def dropCandidate (scanner : Scanner) : Option Scanner :=
  match scanner.candidates with
  | some candidate :: others =>
    if candidate.isRequired then none else some { scanner with candidates := none :: others }
  | _ => some scanner

/-- Remembers a place as a candidate, if a key may start there. -/
def addCandidate (scanner : Scanner) (place : Place) : Option Scanner :=
  if scanner.mayStartKey then do
    let { tokens, blocks, .. } := scanner
    let isRequired := !scanner.inBrackets && blocks.head? == some place.column
    let scanner ← scanner.dropCandidate
    let candidate := ⟨place.row, place.column, isRequired, tokens.length⟩
    return { scanner with candidates := some candidate :: scanner.candidates.drop 1 }
  else some scanner

/-- Closes the blocks that are open in columns behind one. -/
def closeBlocks (isInside : Nat → Bool) : List Nat → List Token → List Nat × List Token
  | [], tokens => ([], tokens)
  | block :: blocks, tokens =>
    if isInside block then closeBlocks isInside blocks (.blockEnd :: tokens)
    else (block :: blocks, tokens)

/-- Closes blocks, unless the reader is between brackets. -/
def close (scanner : Scanner) (isInside : Nat → Bool) : Scanner :=
  if scanner.inBrackets then scanner
  else
    let (blocks, tokens) := closeBlocks isInside scanner.blocks scanner.tokens
    { scanner with blocks, tokens }

/-- Opens a block in a column behind the first tokens, if it is indented further than the one around
it. Between brackets there are no blocks. -/
def openAt (scanner : Scanner) (position column : Nat) (token : Token) : Scanner :=
  if scanner.inBrackets || scanner.blocks.head?.any (column ≤ ·) then scanner
  else { scanner.insertAt position token with blocks := column :: scanner.blocks }

/-- Opens a block in a column here. -/
def openHere (scanner : Scanner) (column : Nat) (token : Token) : Scanner :=
  scanner.openAt scanner.tokens.length column token

/-- Passes over some characters that are a token. -/
def take (scanner : Scanner) (width : Nat) (token : Token) : Scanner :=
  { scanner.push token with rest := scanner.rest.drop width }

/-- A scanner before whose place a key may start or not. -/
def allowKey (scanner : Scanner) (mayStartKey : Bool) : Scanner :=
  { scanner with mayStartKey }

/-- Reads a row that opens or closes a document. -/
def readMarks (scanner : Scanner) (token : Token) : Option Scanner := do
  let scanner ← (scanner.close fun _ => true).dropCandidate
  return (scanner.allowKey false).take 3 token

/-- Reads an opening bracket. -/
def readOpening (scanner : Scanner) (place : Place) (token : Token) : Option Scanner := do
  let scanner ← scanner.addCandidate place
  return ({ scanner with candidates := none :: scanner.candidates }.allowKey true).take 1 token

/-- Reads a closing bracket. Outside of brackets there is nothing to close. -/
def readClosing (scanner : Scanner) (token : Token) : Option Scanner := do
  let scanner ← scanner.dropCandidate
  let candidates :=
    if scanner.inBrackets then scanner.candidates.drop 1 else scanner.candidates
  return ({ scanner with candidates }.allowKey false).take 1 token

/-- Reads a comma between brackets. -/
def readComma (scanner : Scanner) : Option Scanner := do
  return ((← scanner.dropCandidate).allowKey true).take 1 .comma

/-- Reads the mark of an item. -/
def readItem (scanner : Scanner) (place : Place) : Option Scanner := do
  if !scanner.inBrackets && !scanner.mayStartKey then none
  else
    let scanner ← (scanner.openHere place.column .blockList).dropCandidate
    return (scanner.allowKey true).take 1 .item

/-- Reads the mark of a key. -/
def readKey (scanner : Scanner) (place : Place) : Option Scanner := do
  if !scanner.inBrackets && !scanner.mayStartKey then none
  else
    let scanner ← (scanner.openHere place.column .blockMapping).dropCandidate
    return (scanner.allowKey (!scanner.inBrackets)).take 1 .key

/-- Reads the colon in front of a value. If there is a candidate, it is the key. -/
def readValue (scanner : Scanner) (place : Place) : Option Scanner :=
  match scanner.candidates with
  | some candidate :: others =>
    let scanner := { scanner with candidates := none :: others }
    let scanner := scanner.insertAt candidate.position .key
    let scanner := scanner.openAt candidate.position candidate.column .blockMapping
    some ((scanner.allowKey false).take 1 .value)
  | _ =>
    if scanner.inBrackets then some ((scanner.allowKey false).take 1 .value)
    else if scanner.mayStartKey then
      some (((scanner.openHere place.column .blockMapping).allowKey true).take 1 .value)
    else none

/-- Reads a text between marks. -/
def readMarked (scanner : Scanner) (place : Place) : Option Scanner := do
  let scanner ← scanner.addCandidate place
  let { rest, .. } := scanner
  let (text, rest) ← readQuoted place.char .empty (rest.length + 1) (rest.drop 1)
  return { (scanner.allowKey false).push (.text false text) with rest }

/-- Reads a text without marks. A key may start behind it only if a row has ended. -/
def readUnmarked (scanner : Scanner) (place : Place) : Option Scanner := do
  let scanner ← scanner.addCandidate place
  let column := (scanner.blocks.head?.map (· + 1)).getD 0
  let plain ← readPlain scanner.inBrackets column .empty scanner.rest
  return { (scanner.allowKey plain.isBroken).push (.text true plain.text) with rest := plain.rest }

/-- Whether a character may stand behind the name of a node. -/
def mayFollowName (c : Char) : Bool :=
  "?:,]\x7d%@\x60".toList.contains c

/-- Reads the name of a node behind its mark. -/
def readNodeName (places : List Place) : Option (List Char × List Place) :=
  let (name, rest) := readName (places.drop 1)
  if !name.isEmpty && (atWordEnd rest || rest.head?.any (mayFollowName ·.char)) then
    some (name, rest)
  else none

/-- Reads the name that a node is given. -/
def readAnchor (scanner : Scanner) (place : Place) : Option Scanner := do
  let scanner ← scanner.addCandidate place
  let (name, rest) ← readNodeName scanner.rest
  let { names, .. } := scanner
  return { (scanner.allowKey false).push (.anchor names.next) with rest, names := names.give name }

/-- Reads a name that a node has been given before. -/
def readReference (scanner : Scanner) (place : Place) : Option Scanner := do
  let scanner ← scanner.addCandidate place
  let (name, rest) ← readNodeName scanner.rest
  let number ← scanner.names.lookup name
  return { (scanner.allowKey false).push (.reference number) with rest }

/-- Reads the tag of a node. -/
def readNodeTag (scanner : Scanner) (place : Place) : Option Scanner := do
  let scanner ← scanner.addCandidate place
  let (written, rest) ← readTag scanner.rest
  let tag ← written.resolve? scanner.handles
  if atWordEnd rest || (scanner.inBrackets && rest.head?.any (·.char == ',')) then
    return { (scanner.allowKey false).push (.tag tag) with rest }
  else none

/-- Reads a text of whole rows, behind which a key may start. -/
def readRowText (scanner : Scanner) (isFolded : Bool) : Option Scanner := do
  let scanner ← scanner.dropCandidate
  let (text, rest) ← readBlockText isFolded scanner.blocks.head? (scanner.rest.drop 1)
  return { (scanner.allowKey true).push (.text false text) with rest }

/-- Reads a row in front of a document. -/
def readDirective (scanner : Scanner) : Option Scanner := do
  let scanner ← (scanner.close fun _ => true).dropCandidate
  let (directive, rest) ← Directive.read (scanner.rest.drop 1)
  let handles := directive.meaning?.toList ++ scanner.handles
  return { (scanner.allowKey false).push (.directive directive) with rest, handles }

/-- The characters that a text without marks cannot start with, or only in front of others. -/
def isIndicator (c : Char) : Bool :=
  "-?:,[]\x7b\x7d#&*!|>'\"%@\x60".toList.contains c

/-- Whether a text without marks starts here. -/
def startsPlain (inBrackets : Bool) (place : Place) (rest : List Place) : Bool :=
  if isIndicator place.char then
    (place.char == '-' && !rest.head?.any (·.isSpace))
      || (!inBrackets && (place.char == '?' || place.char == ':') && !atWordEnd rest)
  else !place.endsWord

/-- Reads the token at a place. -/
def readToken (scanner : Scanner) (place : Place) (rest : List Place) : Option Scanner :=
  let isColumnZero := place.column == 0
  let endsMark := scanner.inBrackets || atWordEnd rest
  if isColumnZero && place.char == '%' then scanner.readDirective
  else if isColumnZero && startsMarks '-' (place :: rest) then scanner.readMarks .documentStart
  else if isColumnZero && startsMarks '.' (place :: rest) then scanner.readMarks .documentEnd
  else if place.char == '[' then scanner.readOpening place .openList
  else if place.char == '\x7b' then scanner.readOpening place .openMapping
  else if place.char == ']' then scanner.readClosing .closeList
  else if place.char == '\x7d' then scanner.readClosing .closeMapping
  else if place.char == ',' then scanner.readComma
  else if place.char == '-' && atWordEnd rest then scanner.readItem place
  else if place.char == '?' && endsMark then scanner.readKey place
  else if place.char == ':' && endsMark then scanner.readValue place
  else if place.char == '*' then scanner.readReference place
  else if place.char == '&' then scanner.readAnchor place
  else if place.char == '!' then scanner.readNodeTag place
  else if place.char == '|' && !scanner.inBrackets then scanner.readRowText false
  else if place.char == '>' && !scanner.inBrackets then scanner.readRowText true
  else if place.char == '\'' || place.char == '"' then scanner.readMarked place
  else if startsPlain scanner.inBrackets place rest then scanner.readUnmarked place
  else none

/-- Closes what is open at the end of a document. -/
def finish (scanner : Scanner) : Option (List Token) := do
  let scanner ← (scanner.close fun _ => true).dropCandidate
  return scanner.tokens.reverse

/-- Reads tokens up to the end of a document. -/
def run (scanner : Scanner) : Nat → Option (List Token)
  | 0 => none
  | budget + 1 =>
    let scanner := scanner.skip
    match scanner.rest with
    | [] => scanner.finish
    | place :: rest => do
      let scanner ← scanner.dropStale place
      let scanner ← (scanner.close (place.column < ·)).readToken place rest
      scanner.run budget

end Scanner

/-- The tokens of a document. -/
def tokens? (places : List Place) : Option (List Token) :=
  Scanner.run { rest := places } (places.length + 1)

end MediaShelf.Yaml
