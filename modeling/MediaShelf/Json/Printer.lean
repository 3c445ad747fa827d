import MediaShelf.Json.Basic
import MediaShelf.Text.Numeral

/-!
# JSON text

A value is written on one line without blanks. A string escapes the quote, the backslash and the
control codes below space; everything else is written as itself.
-/

namespace MediaShelf.Json

/-- One hexadecimal digit. -/
def hexDigit (n : Nat) : Char :=
  Nat.digitChar n

/-- A character as it is written inside quotes. -/
def escape (c : Char) : List Char :=
  if c = '"' then ['\\', '"']
  else if c = '\\' then ['\\', '\\']
  else if c = '\n' then ['\\', 'n']
  else if c = '\r' then ['\\', 'r']
  else if c = '\t' then ['\\', 't']
  else if c.toNat < 0x20 then
    ['\\', 'u', '0', '0', hexDigit (c.toNat / 16), hexDigit (c.toNat % 16)]
  else [c]

/-- A text between quotes. -/
def quoted (s : String) : List Char :=
  '"' :: (s.toList.flatMap escape ++ ['"'])

mutual

/-- The text of a value. -/
def print : Json → List Char
  | .null => "null".toList
  | .bool true => "true".toList
  | .bool false => "false".toList
  | .int n => (Text.ofInt n).toList
  | .decimal spelling => spelling.toList
  | .str s => quoted s
  | .unreadable => "\"\\ud800\"".toList
  | .arr [] => ['[', ']']
  | .arr (item :: items) => '[' :: (print item ++ printItems items)
  | .obj [] => ['\x7b', '\x7d']
  | .obj ((key, value) :: members) =>
    '\x7b' :: (quoted key ++ ':' :: (print value ++ printMembers members))

/-- The items of an array behind its first, and the closing bracket. -/
def printItems : List Json → List Char
  | [] => [']']
  | item :: items => ',' :: (print item ++ printItems items)

/-- The members of an object behind its first, and the closing brace. -/
def printMembers : List (String × Json) → List Char
  | [] => ['\x7d']
  | (key, value) :: members => ',' :: (quoted key ++ ':' :: (print value ++ printMembers members))

end

/-- The text of a value as a string. -/
def render (value : Json) : String :=
  String.ofList (print value)

end MediaShelf.Json
