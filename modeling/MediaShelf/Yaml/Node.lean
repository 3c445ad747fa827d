import MediaShelf.Yaml.Token

/-!
# Nodes of YAML

A document is a text, a list or a mapping, whose items, keys and values are such nodes again. Lists
and mappings open and close by indentation or by brackets; the items of a list that is the value of
a key need not be indented further than the key. A value, a key or an item that is left out is an
empty text without marks.

A node may have a name and a tag in front of it, in any order, and a reference stands for the node
whose name has its number.
-/

namespace MediaShelf.Yaml

/-- A node of a document. -/
inductive Node where
  /-- A text, and whether it stands without marks. -/
  | text (isPlain : Bool) (cs : List Char)
  | list (items : List Node)
  | mapping (members : List (Node × Node))
  /-- A node with a tag. -/
  | tagged (tag : Tag) (node : Node)
  /-- A node whose name has a number. -/
  | named (number : Nat) (node : Node)
  /-- The node whose name has a number. -/
  | reference (number : Nat)

namespace Node

/-- What is left out. -/
def empty : Node :=
  text true []

/-- Whether a token cannot start an item or a value between marks, so that it is left out. -/
def isLeftOut (ends : List Token) : List Token → Bool
  | [] => true
  | token :: _ => ends.contains token

/-- Whether a text, a list or a mapping starts here. -/
def startsContent (inBlock isValue : Bool) : List Token → Bool
  | .text _ _ :: _ => true
  | .openList :: _ => true
  | .openMapping :: _ => true
  | .item :: _ => isValue
  | .blockList :: _ => inBlock
  | .blockMapping :: _ => inBlock
  | _ => false

mutual

/-- Reads a node. Within a mapping, items of a list may follow without opening it. -/
def read (inBlock isValue : Bool) : Nat → List Token → Option (Node × List Token)
  | 0, _ => none
  | budget + 1, tokens =>
    match tokens with
    | .reference number :: rest => some (.reference number, rest)
    | .anchor number :: .tag tag :: rest =>
      (readRest inBlock isValue budget rest).map
        fun (node, rest) => (.named number (.tagged tag node), rest)
    | .tag tag :: .anchor number :: rest =>
      (readRest inBlock isValue budget rest).map
        fun (node, rest) => (.named number (.tagged tag node), rest)
    | .anchor number :: rest =>
      (readRest inBlock isValue budget rest).map fun (node, rest) => (.named number node, rest)
    | .tag tag :: rest =>
      (readRest inBlock isValue budget rest).map fun (node, rest) => (.tagged tag node, rest)
    | tokens => readContent inBlock isValue budget tokens

/-- Reads what stands behind a name or a tag, unless it is left out. -/
def readRest (inBlock isValue : Bool) : Nat → List Token → Option (Node × List Token)
  | 0, _ => none
  | budget + 1, tokens =>
    if startsContent inBlock isValue tokens then readContent inBlock isValue budget tokens
    else some (.empty, tokens)

/-- Reads a text, a list or a mapping. -/
def readContent (inBlock isValue : Bool) : Nat → List Token → Option (Node × List Token)
  | 0, _ => none
  | budget + 1, tokens =>
    match tokens with
    | .text isPlain cs :: rest => some (.text isPlain cs, rest)
    | .openList :: .closeList :: rest => some (.list [], rest)
    | .openList :: rest =>
      (readListed budget rest).map fun (items, rest) => (.list items, rest)
    | .openMapping :: .closeMapping :: rest => some (.mapping [], rest)
    | .openMapping :: rest =>
      (readMapped budget rest).map fun (members, rest) => (.mapping members, rest)
    | .item :: rest =>
      if isValue then
        (readItems [.item, .key, .value, .blockEnd] budget (.item :: rest)).map
          fun (items, rest) => (.list items, rest)
      else none
    | .blockList :: rest =>
      if inBlock then
        match readItems [.item, .blockEnd] budget rest with
        | some (items, .blockEnd :: rest) => some (.list items, rest)
        | _ => none
      else none
    | .blockMapping :: rest =>
      if inBlock then
        match readMembers budget rest with
        | some (members, .blockEnd :: rest) => some (.mapping members, rest)
        | _ => none
      else none
    | _ => none

/-- Reads a node of a block, unless it is left out in front of one of some tokens. -/
def readOptional (inBlock isValue : Bool) (ends : List Token) :
    Nat → List Token → Option (Node × List Token)
  | 0, _ => none
  | budget + 1, tokens =>
    if isLeftOut ends tokens then some (.empty, tokens) else read inBlock isValue budget tokens

/-- Reads the items of a list that are marked one by one. -/
def readItems (ends : List Token) : Nat → List Token → Option (List Node × List Token)
  | 0, _ => none
  | budget + 1, tokens =>
    match tokens with
    | .item :: rest => do
      let (node, rest) ← readOptional true false ends budget rest
      let (nodes, rest) ← readItems ends budget rest
      return (node :: nodes, rest)
    | tokens => some ([], tokens)

/-- Reads the members of a mapping that opens by indentation. -/
def readMembers : Nat → List Token → Option (List (Node × Node) × List Token)
  | 0, _ => none
  | budget + 1, tokens =>
    match tokens with
    | .key :: rest => do
      let (key, rest) ← readOptional true true [.key, .value, .blockEnd] budget rest
      let (value, rest) ← readValue true [.key, .value, .blockEnd] budget rest
      let (members, rest) ← readMembers budget rest
      return ((key, value) :: members, rest)
    | tokens => some ([], tokens)

/-- Reads a value behind its colon; without one it is left out. -/
def readValue (inBlock : Bool) (ends : List Token) : Nat → List Token → Option (Node × List Token)
  | 0, _ => none
  | budget + 1, tokens =>
    match tokens with
    | .value :: rest => readOptional inBlock inBlock ends budget rest
    | tokens => some (.empty, tokens)

/-- Reads an item between brackets. A pair of key and value is a mapping with one member. If the key
is left out, so is the token that would follow it. -/
def readListItem : Nat → List Token → Option (Node × List Token)
  | 0, _ => none
  | budget + 1, tokens =>
    match tokens with
    | .key :: rest => do
      let ends := [.value, .comma, .closeList]
      let (key, others) ← readOptional false false ends budget rest
      let others := if isLeftOut ends rest then others.drop 1 else others
      let (value, rest) ← readValue false [.comma, .closeList] budget others
      return (.mapping [(key, value)], rest)
    | tokens => read false false budget tokens

/-- Reads at least one item between brackets, and the closing bracket. -/
def readListed : Nat → List Token → Option (List Node × List Token)
  | 0, _ => none
  | budget + 1, tokens => do
    let (item, rest) ← readListItem budget tokens
    match rest with
    | .closeList :: rest => return ([item], rest)
    | .comma :: .closeList :: rest => return ([item], rest)
    | .comma :: rest =>
      let (items, rest) ← readListed budget rest
      return (item :: items, rest)
    | _ => none

/-- Reads a member between braces. A key alone lacks its value. -/
def readMember : Nat → List Token → Option ((Node × Node) × List Token)
  | 0, _ => none
  | budget + 1, tokens =>
    match tokens with
    | .key :: rest => do
      let (key, rest) ← readOptional false false [.value, .comma, .closeMapping] budget rest
      let (value, rest) ← readValue false [.comma, .closeMapping] budget rest
      return ((key, value), rest)
    | tokens => (read false false budget tokens).map fun (key, rest) => ((key, .empty), rest)

/-- Reads at least one member between braces, and the closing brace. -/
def readMapped : Nat → List Token → Option (List (Node × Node) × List Token)
  | 0, _ => none
  | budget + 1, tokens => do
    let (member, rest) ← readMember budget tokens
    match rest with
    | .closeMapping :: rest => return ([member], rest)
    | .comma :: .closeMapping :: rest => return ([member], rest)
    | .comma :: rest =>
      let (members, rest) ← readMapped budget rest
      return (member :: members, rest)
    | _ => none

end

/-- Reads the node of a document, unless the document is empty. -/
def readRoot (tokens : List Token) : Option (Node × List Token) :=
  if isLeftOut [.documentStart, .documentEnd] tokens then some (.empty, tokens)
  else read true false (6 * tokens.length + 6) tokens

/-- Whether a token is a directive. -/
def isDirective : Token → Bool
  | .directive _ => true
  | _ => false

/-- The directive that a token is. -/
def directive? : Token → Option Directive
  | .directive directive => some directive
  | _ => none

/-- Reads the node of a document. A row has to open it if there are directives. -/
def readDocument (tokens : List Token) : Option (Node × List Token) :=
  let directives := tokens.takeWhile isDirective
  if !Directive.areInOrder (directives.filterMap directive?) then none
  else
    match tokens.dropWhile isDirective with
    | .documentStart :: rest => readRoot rest
    | .documentEnd :: _ => none
    | rest => if directives.isEmpty then readRoot rest else none

/-- The node of a document. A row may close it, and there is nothing behind it. -/
def ofTokens? (tokens : List Token) : Option Node :=
  match readDocument tokens with
  | some (node, rest) => if rest.all (· == .documentEnd) then some node else none
  | none => none

end Node

end MediaShelf.Yaml
