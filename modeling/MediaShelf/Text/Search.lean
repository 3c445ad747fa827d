/-!
# Finding and replacing

Operations on texts: cutting at the first occurrence of a pattern, replacing every occurrence, and
splitting into rows or parts. Occurrences are taken from left to right and never overlap.
-/

namespace MediaShelf.Text

/-- What follows `pattern` at the front of a text, when the text starts with it. -/
def after? (pattern cs : List Char) : Option (List Char) :=
  match pattern, cs with
  | [], rest => some rest
  | _ :: _, [] => none
  | p :: ps, c :: rest => if p = c then after? ps rest else none

/-- The part of a text before the first occurrence of `pattern`, or all of it. -/
def before (pattern : List Char) : List Char → List Char
  | [] => []
  | c :: rest => if (after? pattern (c :: rest)).isSome then [] else c :: before pattern rest

/-- Replaces the occurrences of `pattern`, where the first `skip` characters of the text belong to
an occurrence that has been replaced already. -/
def replaceFrom (pattern replacement : List Char) (skip : Nat) : List Char → List Char
  | [] => []
  | c :: rest =>
    match skip with
    | skip + 1 => replaceFrom pattern replacement skip rest
    | 0 =>
      if (after? pattern (c :: rest)).isSome then
        replacement ++ replaceFrom pattern replacement (pattern.length - 1) rest
      else c :: replaceFrom pattern replacement 0 rest

/-- Replaces every occurrence of `pattern`, from left to right; an empty pattern occurs nowhere. -/
def replaceAll (pattern replacement cs : List Char) : List Char :=
  if pattern.isEmpty then cs else replaceFrom pattern replacement 0 cs

/-- Splits a text behind every line feed, which stays with the row it ends. -/
def rowsWithEnds : List Char → List (List Char)
  | [] => []
  | c :: rest =>
    if c = '\n' then [c] :: rowsWithEnds rest
    else
      match rowsWithEnds rest with
      | [] => [[c]]
      | row :: rows => (c :: row) :: rows

/-- A row without the line feed that ends it and the one carriage return before that. -/
def dropRowEnd (row : List Char) : List Char :=
  match row.reverse with
  | '\n' :: '\r' :: front => front.reverse
  | '\n' :: front => front.reverse
  | _ => row

/-- The rows of a text. A row ends with a line feed or a carriage return and a line feed; what
follows the last line feed is a row only if it is not empty. -/
def rows (cs : List Char) : List (List Char) :=
  (rowsWithEnds cs).map dropRowEnd

/-- The parts of a text between the occurrences of a separator: one more than there are of them. -/
def partsAt (separator : Char) : List Char → List (List Char)
  | [] => [[]]
  | c :: rest =>
    if c = separator then [] :: partsAt separator rest
    else
      match partsAt separator rest with
      | [] => [[c]]
      | part :: others => (c :: part) :: others

theorem partsAt_ne_nil (separator : Char) (cs : List Char) : partsAt separator cs ≠ [] := by
  cases cs with
  | nil => exact List.cons_ne_nil _ _
  | cons c rest =>
      rw [partsAt]
      split
      · exact List.cons_ne_nil _ _
      · split
        · exact List.cons_ne_nil _ _
        · exact List.cons_ne_nil _ _

/-- A text without the byte order mark that it may start with. -/
def dropMark : List Char → List Char
  | '\ufeff' :: rest => rest
  | rest => rest

end MediaShelf.Text
