/-!
# JSON values

Snapshots and settings travel as JSON. Two properties of a JSON text that readers of records care
about are kept by the value: an object lists its members in order and may repeat a key, and a
number is an integer only if it is spelled like one. `1.0`, `1e2` and `-0` are numbers, but no
field that holds an id or a count accepts them.

A string may escape half of a surrogate pair, or hold bytes that are no text. Such a string is
grammatical, so a reader may pass over it, but there is no text that it stands for. An object with
such a string for a key is no more readable than the string.
-/

namespace MediaShelf

/-- A JSON value. -/
inductive Json where
  /-- The literal `null`. -/
  | null
  | bool (b : Bool)
  /-- A number spelled as an integer. -/
  | int (n : Int)
  /-- A number spelled in any other way: with a fraction, with an exponent, or as `-0`. -/
  | decimal (spelling : String)
  | str (s : String)
  /-- A string that stands for no text, or an object with such a string for a key. -/
  | unreadable
  | arr (items : List Json)
  /-- An object, its members in the order of the text. -/
  | obj (members : List (String × Json))
deriving Inhabited

namespace Json

/-- A string or `null`. -/
def ofString? : Option String → Json
  | some s => .str s
  | none => .null

/-- An array of strings. -/
def ofStrings (texts : List String) : Json :=
  .arr (texts.map .str)

/-- A natural number. -/
def ofNat (n : Nat) : Json :=
  .int (Int.ofNat n)

end Json

end MediaShelf
