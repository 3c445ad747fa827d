import MediaShelf.Text.Ascii
import MediaShelf.Text.Search
import MediaShelf.Toml.Number
import MediaShelf.Toml.Table
import MediaShelf.Toml.Text

/-!
# Reading TOML

A document consists of rows: headers in brackets, keys with their values, comments, and rows with
nothing. Each key and each header has a row of its own, but a list, or a text of several rows, may
go on over row ends. Keys and headers may be paths with dots. Lists, tables in braces and paths are
only read up to a certain depth.

A date or a time is read as an object without members, because nothing in this library is written as
one in TOML.
-/

namespace MediaShelf.Toml

/-- How deep values may be nested, and how long paths may be. -/
def depthLimit : Nat := 79

/-- The characters of a key without quotes. -/
def isKeyChar (c : Char) : Bool :=
  Text.isAsciiAlphanumeric c || c == '_' || c == '-'

/-- Reads a key without dots. -/
def readPlainKey (cs : List Char) : Option (String × List Char) :=
  match cs with
  | '"' :: rest =>
    (readBasic cs.length rest).map fun (key, rest) => (String.ofList key, rest)
  | '\'' :: rest => (readLiteral rest).map fun (key, rest) => (String.ofList key, rest)
  | cs =>
    let key := cs.takeWhile isKeyChar
    if key.isEmpty then none else some (String.ofList key, cs.dropWhile isKeyChar)

/-- Reads the keys of a path, with blanks around each of them. -/
def readKeys : Nat → List Char → Option (List String × List Char)
  | 0, _ => none
  | budget + 1, cs => do
    let (key, rest) ← readPlainKey (skipSpace cs)
    match skipSpace rest with
    | '.' :: rest =>
      let (keys, rest) ← readKeys budget rest
      return (key :: keys, rest)
    | rest => return ([key], rest)

/-- A path with its last key apart. -/
def splitLast : List String → Option (List String × String)
  | [] => none
  | [key] => some ([], key)
  | key :: keys => (splitLast keys).map fun (path, last) => (key :: path, last)

/-- Reads a path, its last key apart. -/
def readPath (cs : List Char) : Option ((List String × String) × List Char) := do
  let (keys, rest) ← readKeys depthLimit cs
  return (← splitLast keys, rest)

/-- Passes over a comment. -/
def skipComment : List Char → Option (List Char)
  | '#' :: rest =>
    let comment := rest.takeWhile fun c => c != '\n' && c != '\r'
    if comment.any isForbidden then none
    else some (rest.dropWhile fun c => c != '\n' && c != '\r')
  | rest => some rest

/-- Reads the end of a row, in front of which there may be blanks and a comment. -/
def endRow (cs : List Char) : Option (List Char) := do
  match ← skipComment (skipSpace cs) with
  | [] => return []
  | rest => readRowEnd? rest

/-- Passes over blanks, comments and row ends between the values of a list. -/
def skipGap : Nat → List Char → Option (List Char)
  | 0, _ => none
  | budget + 1, cs => do
    let rest ← skipComment (skipSpace cs)
    match readRowEnd? rest with
    | some rest => skipGap budget rest
    | none => return rest

/-- Reads a value that neither is a text nor holds other values. -/
def readWord (cs : List Char) : Option (Json × List Char) :=
  match cs with
  | 't' :: 'r' :: 'u' :: 'e' :: rest => some (.bool true, rest)
  | 'f' :: 'a' :: 'l' :: 's' :: 'e' :: rest => some (.bool false, rest)
  | cs =>
    match (readDate cs).bind readTimeOfDay, readTime cs with
    | some rest, _ => some (.obj [], rest)
    | none, some rest => some (.obj [], rest)
    | none, none =>
      match readDecimal cs, readNamed cs with
      | some rest, _ => some (.decimal (String.ofList (cs.take (cs.length - rest.length))), rest)
      | none, some rest =>
        some (.decimal (String.ofList (cs.take (cs.length - rest.length))), rest)
      | none, none => (readInteger cs).map fun (n, rest) => (.int n, rest)

mutual

/-- Reads a value that is nested no deeper than a limit. -/
def readValue (limit : Nat) : Nat → List Char → Option (Json × List Char)
  | 0, _ => none
  | budget + 1, cs =>
    match cs with
    | '[' :: rest =>
      if limit = 0 then none
      else (readItems (limit - 1) budget rest).map fun (items, rest) => (.arr items, rest)
    | '\x7b' :: rest =>
      if limit = 0 then none
      else
        match skipSpace rest with
        | '\x7d' :: rest => some (.obj [], rest)
        | rest => (readEntries (limit - 1) [] budget rest).map fun (entries, rest) =>
          (.obj (entriesToMembers entries), rest)
    | cs =>
      if startsText cs then
        (readText cs).map fun (text, rest) => (.str (String.ofList text), rest)
      else readWord cs

/-- Reads the values of a list up to the closing bracket. A comma may follow the last of them. -/
def readItems (limit : Nat) : Nat → List Char → Option (List Json × List Char)
  | 0, _ => none
  | budget + 1, cs => do
    match ← skipGap (cs.length + 1) cs with
    | ']' :: rest => return ([], rest)
    | rest =>
      let (item, rest) ← readValue limit budget rest
      match ← skipGap (cs.length + 1) rest with
      | ',' :: rest =>
        let (items, rest) ← readItems limit budget rest
        return (item :: items, rest)
      | ']' :: rest => return ([item], rest)
      | _ => none

/-- Reads the entries of a table in braces up to the closing brace. -/
def readEntries (limit : Nat) (entries : Entries) : Nat → List Char → Option (Entries × List Char)
  | 0, _ => none
  | budget + 1, cs => do
    let ((path, key), rest) ← readPath cs
    match rest with
    | '=' :: rest =>
      let (value, rest) ← readValue limit budget (skipSpace rest)
      let entries ← entries.setAt path key value .opened
      match skipSpace rest with
      | ',' :: rest => readEntries limit entries budget rest
      | '\x7d' :: rest => return (entries, rest)
      | _ => none
    | _ => none

end

/-- A document up to some row: its table, and the header that the next rows belong to. -/
structure Document where
  entries : Entries := []
  /-- The path of the header. -/
  header : List String := []

namespace Document

/-- Adds a value for a key at the end of a path. -/
def add (document : Document) (path : List String) (key : String) (value : Json) :
    Option Document := do
  let entries ← document.entries.change false (Entries.setAt path key value) .opened document.header
  return { document with entries }

/-- Goes on with a header. -/
def enter (document : Document) (edit : String → Origin → Entries → Option Entries)
    (path : List String) (key : String) : Option Document := do
  return ⟨← document.entries.change false (edit key) .opened path, path ++ [key]⟩

/-- Reads a header behind its bracket. -/
def readHeader (document : Document) (cs : List Char) : Option (Document × List Char) :=
  match cs with
  | '[' :: rest => do
    let ((path, key), rest) ← readPath rest
    match rest with
    | ']' :: ']' :: rest => return (← document.enter Entries.addTable path key, rest)
    | _ => none
  | rest => do
    let ((path, key), rest) ← readPath rest
    match rest with
    | ']' :: rest => return (← document.enter Entries.openTable path key, rest)
    | _ => none

/-- Reads a key and its value. -/
def readSetting (document : Document) (cs : List Char) : Option (Document × List Char) := do
  let ((path, key), rest) ← readPath cs
  match rest with
  | '=' :: rest =>
    let (value, rest) ← readValue depthLimit (2 * cs.length + 2) (skipSpace rest)
    return (← document.add path key value, rest)
  | _ => none

/-- Reads the rows of a document. -/
def readRows (document : Document) : Nat → List Char → Option Document
  | 0, _ => none
  | budget + 1, cs =>
    match skipSpace cs with
    | [] => some document
    | c :: rest =>
      if c = '[' then do
        let (document, rest) ← document.readHeader rest
        document.readRows budget (← endRow rest)
      else if c = '#' ∨ c = '\n' ∨ c = '\r' then do
        document.readRows budget (← endRow (c :: rest))
      else do
        let (document, rest) ← document.readSetting (c :: rest)
        document.readRows budget (← endRow rest)

end Document

/-- Reads a document. -/
def parse (text : List Char) : Option Json := do
  let document ← Document.readRows {} (text.length + 1) (Text.dropMark text)
  return .obj (entriesToMembers document.entries)

end MediaShelf.Toml
