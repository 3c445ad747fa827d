import MediaShelf.Json.Basic
import MediaShelf.Text.Numeral

/-!
# Records in JSON

A record with named fields is written as an object. Its reader is lenient where that loses nothing:
unknown keys are passed over, a field with a default may be left out, and an array gives the fields
in their fixed order, where trailing fields with a default may be missing. It is strict where
leniency would hide a mistake: a known key given twice, a missing field without a default, and too
many items in an array are errors. A default stands for an absent field only; `null` is a value like
any other, and only fields that may be empty accept it.
-/

namespace MediaShelf.Json

/-- The fields of a record that a JSON value gives, each at most once. -/
structure Record where
  /-- The given fields with their values. -/
  given : List (String × Json)

namespace Record

/-- Reads the fields `names` of a record from an object or from an array in their order. -/
def ofJson? (names : List String) : Json → Option Record
  | .obj members =>
    let known := members.filter fun member => names.contains member.1
    if (known.map (·.1)).Nodup then some ⟨known⟩ else none
  | .arr items => if items.length ≤ names.length then some ⟨names.zip items⟩ else none
  | _ => none

/-- The value of a field, if it is given. -/
def value? (record : Record) (name : String) : Option Json :=
  record.given.lookup name

/-- Reads a field that has to be given. -/
def required {α : Type} (record : Record) (name : String) (read : Json → Option α) : Option α :=
  (record.value? name).bind read

/-- Reads a field that stands for `fallback` when it is absent. -/
def defaulted {α : Type} (record : Record) (name : String) (read : Json → Option α)
    (fallback : α) : Option α :=
  match record.value? name with
  | some value => read value
  | none => some fallback

end Record

/-- Reads a truth value. -/
def bool? : Json → Option Bool
  | .bool b => some b
  | _ => none

/-- Reads a text. -/
def string? : Json → Option String
  | .str s => some s
  | _ => none

/-- Reads an integer. -/
def int? : Json → Option Int
  | .int n => some n
  | _ => none

/-- Reads an integer that lies in a range. -/
def intIn? (range : Text.NumberRange) (value : Json) : Option Int :=
  (int? value).filter range.holds

/-- Reads a number of 64 bits. -/
def uint64? (value : Json) : Option UInt64 :=
  (intIn? .long value).map fun n => UInt64.ofNat n.toNat

/-- Reads a number of 32 bits. -/
def uint32? (value : Json) : Option UInt32 :=
  (intIn? .word value).map fun n => UInt32.ofNat n.toNat

/-- Reads a number of 8 bits. -/
def uint8? (value : Json) : Option UInt8 :=
  (intIn? .byte value).map fun n => UInt8.ofNat n.toNat

/-- Reads an array whose items are read one by one. -/
def list? {α : Type} (read : Json → Option α) : Json → Option (List α)
  | .arr items => items.mapM read
  | _ => none

/-- Reads a value that may be `null`. -/
def nullable? {α : Type} (read : Json → Option α) : Json → Option (Option α)
  | .null => some none
  | value => (read value).map some

/-- Writes a value that may be absent. -/
def ofOption {α : Type} (write : α → Json) : Option α → Json
  | some a => write a
  | none => .null

/-- Writes a list of values. -/
def ofList {α : Type} (write : α → Json) (items : List α) : Json :=
  .arr (items.map write)

end MediaShelf.Json
