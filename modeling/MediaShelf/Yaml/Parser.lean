import MediaShelf.Json.StandIn
import MediaShelf.Text.Decimal
import MediaShelf.Yaml.Node

/-!
# Reading YAML

A text without marks may stand for a truth value, for a number, or for nothing; any other text
stands for itself. Digits that start with a zero are a text. So is a number that is too large: a
whole number has up to 128 bits, and a decimal is finite. The keys of a mapping are taken for texts
whatever they look like, and may be given several times. An empty document is an empty mapping.

A tag says what a text stands for. A value with a tag that only the writer of the document knows is
a mapping from the name of the tag to the value; in front of keys and of the document itself, tags
count for nothing. A node cannot be part of itself.

Lists and mappings are only read up to a certain depth, and references only so often.
-/

namespace MediaShelf.Yaml

/-- Reads a row of at least one digit of a base. -/
def readBased (base : Nat) (cs : List Char) : Option Nat :=
  if cs.isEmpty || !cs.all (fun c => (Json.hexValue? c).any (· < base)) then none
  else some (cs.foldl (fun n c => n * base + (Json.hexValue? c).getD 0) 0)

/-- Whether a row of digits starts with a zero that is not alone. Such a row is a text. -/
def isZeroPadded (cs : List Char) : Bool :=
  match Text.dropSign cs with
  | '0' :: d :: rest => (d :: rest).all Text.isAsciiDigit
  | _ => false

/-- Reads a whole number without a sign. -/
def readMagnitude (cs : List Char) : Option Nat :=
  match cs with
  | '0' :: 'x' :: rest => readBased 16 rest
  | '0' :: 'o' :: rest => readBased 8 rest
  | '0' :: 'b' :: rest => readBased 2 rest
  | cs => if isZeroPadded cs then none else Text.readDigits cs

/-- The whole numbers that there are. -/
def range : Text.NumberRange :=
  ⟨-170141183460469231731687303715884105728, 340282366920938463463374607431768211455⟩

/-- Reads a whole number. -/
def readInteger (cs : List Char) : Option Int :=
  let read : Option Int :=
    match cs with
    | '+' :: rest => (readMagnitude rest).map Int.ofNat
    | '-' :: rest => (readMagnitude rest).map fun n => -Int.ofNat n
    | rest => (readMagnitude rest).map Int.ofNat
  read.filter range.holds

/-- Whether a text spells a number that is infinite or none at all. -/
def isNonFinite (cs : List Char) : Bool :=
  [".inf", ".Inf", ".INF"].contains (String.ofList (Text.dropSign cs))
    || [".nan", ".NaN", ".NAN"].contains (String.ofList cs)

/-- Whether a text spells a decimal, which may be infinite or no number only if it says so. -/
def isDecimal (cs : List Char) : Bool :=
  isNonFinite cs || (Text.Decimal.read? (Text.dropSign cs)).any (·.isFinite)

/-- Reads a truth value. -/
def readTruth (cs : List Char) : Option Bool :=
  let word := String.ofList cs
  if ["true", "True", "TRUE"].contains word then some true
  else if ["false", "False", "FALSE"].contains word then some false
  else none

/-- Whether a text spells that there is nothing. -/
def isNull (cs : List Char) : Bool :=
  ["null", "Null", "NULL", "~"].contains (String.ofList cs)

/-- The value that a text without marks stands for. -/
def plainValue (cs : List Char) : Json :=
  if cs.isEmpty || isNull cs then .null
  else
    match readTruth cs, readInteger cs with
    | some truth, _ => .bool truth
    | none, some n => .int n
    | none, none =>
      if isDecimal cs && !isZeroPadded cs then .decimal (String.ofList cs)
      else .str (String.ofList cs)

/-- The value that a text stands for. -/
def textValue (isPlain : Bool) (cs : List Char) : Json :=
  if isPlain then plainValue cs else .str (String.ofList cs)

/-- The value that a text stands for, if it is one of the kind that its tag tells. -/
def taggedValue? (isPlain : Bool) (cs : List Char) : Option Tag → Option Json
  | some .bool => (readTruth cs).map .bool
  | some .int => (readInteger cs).map .int
  | some .float => if isDecimal cs then some (.decimal (String.ofList cs)) else none
  | some .null => if isNull cs then some .null else none
  | some .other => some (.str (String.ofList cs))
  | some .unreadable => some (textValue isPlain cs)
  | some (.own _) => some (textValue isPlain cs)
  | none => some (textValue isPlain cs)

/-- The value with a tag. -/
def withTag (value : Json) : Option Tag → Json
  | some (.own name) => .single name value
  | _ => value

/-- Something that is found out while references are counted down. -/
abbrev Counted (α : Type) := StateT Nat Option α

/-- The nodes of a document that have names, each with its number. -/
abbrev NamedNodes := List (Nat × Node)

namespace Node

/-- The tag of a node. -/
def tag? : Node → Option Tag
  | named _ (tagged tag _) => some tag
  | tagged tag _ => some tag
  | _ => none

/-- A node without its name and tag. -/
def content : Node → Node
  | named _ (tagged _ node) => node
  | named _ node => node
  | tagged _ node => node
  | node => node

mutual

/-- The nodes with names in a node, the last one first. -/
def namedNodes : Node → NamedNodes
  | text _ _ => []
  | list items => itemsNamedNodes items
  | mapping members => membersNamedNodes members
  | tagged _ node => node.namedNodes
  | named number node => node.namedNodes ++ [(number, node)]
  | reference _ => []

/-- The nodes with names in the items of a list, the last one first. -/
def itemsNamedNodes : List Node → NamedNodes
  | [] => []
  | item :: items => itemsNamedNodes items ++ item.namedNodes

/-- The nodes with names in the members of a mapping, the last one first. -/
def membersNamedNodes : List (Node × Node) → NamedNodes
  | [] => []
  | (key, value) :: members => membersNamedNodes members ++ value.namedNodes ++ key.namedNodes

end

mutual

/-- How many texts, references, and ends of lists and mappings a node has. -/
def size : Node → Nat
  | text _ _ => 1
  | list items => 2 + itemsSize items
  | mapping members => 2 + membersSize members
  | tagged _ node => node.size
  | named _ node => node.size
  | reference _ => 1

/-- The size of the items of a list. -/
def itemsSize : List Node → Nat
  | [] => 0
  | item :: items => item.size + itemsSize items

/-- The size of the members of a mapping. -/
def membersSize : List (Node × Node) → Nat
  | [] => 0
  | (key, value) :: members => key.size + value.size + membersSize members

end

/-- The node that a reference stands for; any other node is that node itself. -/
def followed (nodes : NamedNodes) : Node → Counted Node
  | reference number => fun left =>
    if left = 0 then none else (nodes.lookup number).map fun node => (node, left - 1)
  | node => pure node

/-- The key that a node stands for. -/
def key (nodes : NamedNodes) (node : Node) : Counted String := do
  match (← node.followed nodes).content with
  | text _ cs => return String.ofList cs
  | _ => failure

/-- The value that a node without its tag stands for, given how the nodes inside of it are read, if
they are. -/
def contentValue (nodes : NamedNodes) (inside : Option (Node → Counted Json)) (tag : Option Tag) :
    Node → Counted Json
  | text isPlain cs => StateT.lift (taggedValue? isPlain cs tag)
  | list items => do
    let read ← StateT.lift inside
    return .arr (← items.mapM read)
  | mapping members => do
    let read ← StateT.lift inside
    return .obj (← members.mapM fun member => return (← member.1.key nodes, ← read member.2))
  | _ => failure

/-- The value that a node stands for, given how the nodes inside of it are read, if they are. -/
def valueWith (nodes : NamedNodes) (inside : Option (Node → Counted Json)) (node : Node) :
    Counted Json := do
  let node ← node.followed nodes
  return withTag (← contentValue nodes inside node.tag? node.content) node.tag?

/-- The value of a node whose lists and mappings are nested no deeper than a limit. -/
def value (nodes : NamedNodes) : Nat → Node → Counted Json
  | 0, node => node.valueWith nodes none
  | limit + 1, node => node.valueWith nodes (some (value nodes limit))

end Node

/-- How deep a document may be nested. -/
def depthLimit : Nat := 128

/-- How many references may be followed in a document with a size. -/
def referenceLimit (size : Nat) : Nat := 100 * size

/-- The value of a document that is a node. -/
def documentValue? (root : Node) : Option Json :=
  match root.content with
  | .text true [] => some (.obj [])
  | .mapping members =>
    ((Node.mapping members).value root.namedNodes depthLimit).run' (referenceLimit root.size)
  | _ => none

/-- Reads a document. -/
def parse (text : List Char) : Option Json := do
  documentValue? (← Node.ofTokens? (← tokens? (← places? text)))

end MediaShelf.Yaml
