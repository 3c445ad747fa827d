import MediaShelf.Yaml.Text

/-!
# Tags of YAML

A tag tells what kind of value a node is. It starts with an exclamation mark and is written in full
between `<` and `>`, or in short, behind a handle that stands for its first part. A handle is one
exclamation mark, two of them, or a name between two of them. Two stand for the tags that YAML
itself defines; what others stand for may be said in front of a document.
-/

namespace MediaShelf.Yaml

/-- What the handles of tags stand for. -/
abbrev Handles := List (List Char × List Char)

/-- The handles that need no definition. -/
def usualHandles : Handles :=
  [(['!'], ['!']), (['!', '!'], "tag:yaml.org,2002:".toList)]

/-- A tag as it is written. -/
structure WrittenTag where
  /-- The handle; none if the tag is written in full. -/
  handle : List Char
  name : List Char
deriving DecidableEq, Repr

/-- A kind of value that a tag tells. -/
inductive Tag where
  | bool
  | int
  | float
  | null
  /-- A kind of value that only the writer of the document knows, by its name. -/
  | own (name : String)
  /-- What the node looks like: the name of such a kind is no text. -/
  | unreadable
  /-- A text, a list or a mapping. -/
  | other
deriving DecidableEq, Repr

namespace Tag

/-- The text of some characters each of which is a byte, if there is one. -/
def decode? (bytes : List Char) : Option String :=
  String.fromUTF8? ⟨(bytes.map fun byte => UInt8.ofNat byte.toNat).toArray⟩

/-- The tag with a text behind an exclamation mark. The mark belongs to the name only if there is
nothing behind it. -/
def ofName (name : List Char) : Tag :=
  match decode? (if name.isEmpty then ['!'] else name) with
  | some text => own text
  | none => unreadable

/-- The tag with a text. -/
def ofText (text : List Char) : Tag :=
  match text with
  | '!' :: name => ofName name
  | text =>
    match String.ofList text with
    | "tag:yaml.org,2002:bool" => bool
    | "tag:yaml.org,2002:int" => int
    | "tag:yaml.org,2002:float" => float
    | "tag:yaml.org,2002:null" => null
    | _ => other

end Tag

/-- What a tag stands for, if its handle has a meaning. -/
def WrittenTag.resolve? (handles : Handles) (tag : WrittenTag) : Option Tag :=
  if tag.handle.isEmpty then some (Tag.ofText tag.name)
  else (handles.lookup tag.handle).map fun start => Tag.ofText (start ++ tag.name)

/-- Whether a character may be part of a tag. Between `<` and `>` there are more of them. -/
def isTagChar (inFull : Bool) (c : Char) : Bool :=
  isNameChar c || ";/?:@&=+$.!~*'()".toList.contains c || (inFull && ",[]".toList.contains c)

/-- How many bytes of a character are due behind a byte, given how many were due before it. -/
def dueBehind (due byte : Nat) : Option Nat :=
  match due with
  | 0 =>
    if byte < 0x80 then some 0
    else if byte < 0xC0 then none
    else if byte < 0xE0 then some 1
    else if byte < 0xF0 then some 2
    else if byte < 0xF8 then some 3
    else none
  | due + 1 => if 0x80 ≤ byte && byte < 0xC0 then some due else none

/-- Reads characters of a tag. A percent sign is followed by the number of a byte, and the bytes of
a character stand together. -/
def readTagChars (inFull : Bool) (due : Nat) : List Place → Option (List Char × List Place)
  | [] => if due = 0 then some ([], []) else none
  | place :: rest =>
    if place.char = '%' then
      match rest with
      | a :: b :: rest => do
        let byte ← hexNumber? [a, b]
        let (cs, rest) ← readTagChars inFull (← dueBehind due byte) rest
        return (Char.ofNat byte :: cs, rest)
      | _ => none
    else if due ≠ 0 then none
    else if isTagChar inFull place.char then
      (readTagChars inFull 0 rest).map fun (cs, rest) => (place.char :: cs, rest)
    else some ([], place :: rest)

/-- Reads at least one character of a tag. -/
def readTagText (inFull : Bool) (places : List Place) : Option (List Char × List Place) :=
  (readTagChars inFull 0 places).filter (!·.1.isEmpty)

/-- Reads a handle, or what looks like one as long as no second exclamation mark follows. -/
def readHandle : List Place → Option (List Char × List Place)
  | [] => none
  | place :: rest =>
    if place.char ≠ '!' then none
    else
      match readName rest with
      | (name, mark :: rest) =>
        if mark.char = '!' then some ('!' :: name ++ ['!'], rest)
        else some ('!' :: name, mark :: rest)
      | (name, []) => some ('!' :: name, [])

/-- Whether a handle ends with a second exclamation mark. -/
def isClosed (handle : List Char) : Bool :=
  1 < handle.length && handle.getLast? == some '!'

/-- Reads a tag behind a handle. An exclamation mark alone is a tag by itself. -/
def readShortTag (places : List Place) : Option (WrittenTag × List Place) := do
  let (handle, rest) ← readHandle places
  if isClosed handle then
    (readTagText false rest).map fun (name, rest) => (⟨handle, name⟩, rest)
  else
    let (cs, rest) ← readTagChars false 0 rest
    let name := handle.drop 1 ++ cs
    return (if name.isEmpty then ⟨[], ['!']⟩ else ⟨['!'], name⟩, rest)

/-- Reads a tag between `<` and `>` behind the first of these. -/
def readFullTag (places : List Place) : Option (WrittenTag × List Place) := do
  match ← readTagText true places with
  | (name, mark :: rest) => if mark.char = '>' then some (⟨[], name⟩, rest) else none
  | (_, []) => none

/-- Reads a tag with its exclamation mark. -/
def readTag (places : List Place) : Option (WrittenTag × List Place) :=
  if (places.drop 1).head?.any (·.char == '<') then readFullTag (places.drop 2)
  else readShortTag places

end MediaShelf.Yaml
