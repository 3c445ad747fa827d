import MediaShelf.Json.Basic

/-!
# Objects that stand for something else

An object in a settings file may give a value together with a mark of where the value comes from.
Two keys are kept for that: the object then stands for the value alone, whatever else it holds, and
the mark, which has to be a natural number of 64 bits, says nothing more. The document itself is not
such an object.

In a format whose numbers have a sign, no number is a mark.
-/

namespace MediaShelf.Json

/-- The key of the value that an object stands for. -/
def valueKey : String := "___figment_value_value"

/-- The key of the mark of a value. -/
def markKey : String := "___figment_value_id"

/-- Whether a value is a mark, in a format with marks. -/
def isMark (hasMarks : Bool) : Json → Bool
  | .int n => hasMarks && 0 ≤ n && n ≤ 18446744073709551615
  | _ => false

/-- An object with one member, which stands for itself. What has one of the two keys counts for
nothing. -/
def single (key : String) (value : Json) : Json :=
  .obj (if key = valueKey ∨ key = markKey then [] else [(key, value)])

/-- What an object with some members stands for. -/
def standInOf (members : List (String × Json)) : Json :=
  match members.reverse.lookup valueKey with
  | some value => value
  | none => .obj (members.filter fun member => member.1 != markKey)

mutual

/-- What a value stands for, if the marks in it are marks. -/
def settled? (hasMarks : Bool) : Json → Option Json
  | .arr items => (settledItems? hasMarks items).map .arr
  | .obj members => (settledMembers? hasMarks members).map standInOf
  | value => some value

/-- What the items of an array stand for. -/
def settledItems? (hasMarks : Bool) : List Json → Option (List Json)
  | [] => some []
  | item :: items => do
    return (← item.settled? hasMarks) :: (← settledItems? hasMarks items)

/-- The members of an object, where the values stand for themselves. -/
def settledMembers? (hasMarks : Bool) : List (String × Json) → Option (List (String × Json))
  | [] => some []
  | (key, value) :: members => do
    let settled ← value.settled? hasMarks
    let others ← settledMembers? hasMarks members
    if key == markKey && !value.isMark hasMarks then none else return (key, settled) :: others

end

/-- A document with what its members stand for. -/
def settledDocument? (hasMarks : Bool) : Json → Option Json
  | .obj members => do
    return .obj (← members.mapM fun (key, value) => return (key, ← value.settled? hasMarks))
  | value => some value

end MediaShelf.Json
