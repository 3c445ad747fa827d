/-!
# Names of nodes in YAML

A node may be given a name, under which the document refers to it again. A name stands for a number,
and the number for the last node of the whole document that has it. A new name gets the number of
names in front of it. So does a name that is given again, which therefore shares its number with the
next new name.
-/

namespace MediaShelf.Yaml

/-- The names that have been given, each with its number. -/
abbrev Names := List (List Char × Nat)

namespace Names

/-- The number that a name gets when it is given. -/
def next (names : Names) : Nat :=
  names.length

/-- The names after one has been given. -/
def give (names : Names) (name : List Char) : Names :=
  (name, names.next) :: names.filter fun known => known.1 != name

end Names

end MediaShelf.Yaml
