import MediaShelf.Text.Numeral
import MediaShelf.Yaml.Tag

/-!
# Directives of YAML

A row in front of a document that starts with a percent sign is a directive. One tells the version
of YAML that the document is written in, which is 1.1 or 1.2; others tell what handles of tags stand
for. There are no other directives, and none may be given twice.
-/

namespace MediaShelf.Yaml

/-- A directive. -/
inductive Directive where
  | version (major minor : Nat)
  /-- What a handle stands for. -/
  | definition (handle start : List Char)
deriving DecidableEq, Repr

namespace Directive

/-- Reads a number of at most nine digits. -/
def readNumber (places : List Place) : Option (Nat × List Place) :=
  let digits := (places.takeWhile (Text.isAsciiDigit ·.char)).map (·.char)
  if digits.isEmpty || 9 < digits.length then none
  else some (Text.digitsValue digits, places.drop digits.length)

/-- Reads a version. -/
def readVersion (places : List Place) : Option (Directive × List Place) := do
  let (major, rest) ← readNumber (places.dropWhile (·.isSpace))
  match rest with
  | point :: rest =>
    if point.char = '.' then
      (readNumber rest).map fun (minor, rest) => (.version major minor, rest)
    else none
  | [] => none

/-- Reads a handle and what it stands for. -/
def readMeaning (places : List Place) : Option (Directive × List Place) := do
  let (handle, rest) ← readHandle (places.dropWhile (·.isSpace))
  if (isClosed handle || handle == ['!']) && rest.head?.any (·.isSpace) then
    let (start, rest) ← readTagText true (rest.dropWhile (·.isSpace))
    if atWordEnd rest then some (.definition handle start, rest) else none
  else none

/-- Reads a directive behind its percent sign up to the end of the row. -/
def read (places : List Place) : Option (Directive × List Place) := do
  let (name, rest) := readName places
  let (directive, rest) ←
    if !atWordEnd rest then none
    else
      match String.ofList name with
      | "YAML" => readVersion rest
      | "TAG" => readMeaning rest
      | _ => none
  return (directive, ← behindRow? rest)

/-- The version that a directive tells. -/
def version? : Directive → Option (Nat × Nat)
  | version major minor => some (major, minor)
  | definition _ _ => none

/-- The meaning of a handle that a directive tells. -/
def meaning? : Directive → Option (List Char × List Char)
  | version _ _ => none
  | definition handle start => some (handle, start)

/-- Whether directives may stand in front of a document together. -/
def areInOrder (directives : List Directive) : Bool :=
  let versions := directives.filterMap version?
  let handles : List (List Char) := (directives.filterMap meaning?).map (·.1)
  versions.length ≤ 1 && versions.all (fun v => v.1 == 1 && (v.2 == 1 || v.2 == 2))
    && decide handles.Nodup

end Directive

end MediaShelf.Yaml
