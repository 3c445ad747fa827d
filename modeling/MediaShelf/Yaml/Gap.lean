/-!
# Gaps in texts

A text in a YAML document may go on over several rows. What stands between two of its words is a
gap. A gap within a row is what it is. In a gap that goes over row ends, blanks count for nothing;
one row end is a blank, and of several the first one is dropped. A separator of Unicode is never
turned into a blank.
-/

namespace MediaShelf.Yaml

/-- What has been read of a gap. -/
inductive Gap where
  | blanks (cs : List Char)
  /-- Row ends: the first one, unless a backslash has taken it away, and the others. -/
  | breaks (first : Option Char) (others : List Char)
deriving DecidableEq

namespace Gap

/-- No gap. -/
def empty : Gap :=
  blanks []

/-- The gap behind a backslash at the end of a row. -/
def joined : Gap :=
  breaks none []

/-- Whether there is no gap. -/
def isEmpty (gap : Gap) : Bool :=
  gap == empty

/-- Whether a gap goes over a row end. -/
def isBroken : Gap → Bool
  | blanks _ => false
  | breaks _ _ => true

/-- A gap with a blank behind it. -/
def addBlank (gap : Gap) (c : Char) : Gap :=
  match gap with
  | blanks cs => blanks (cs ++ [c])
  | breaks first others => breaks first others

/-- A gap with a row end behind it. -/
def addBreak (gap : Gap) (c : Char) : Gap :=
  match gap with
  | blanks _ => breaks (some c) []
  | breaks first others => breaks first (others ++ [c])

/-- The characters that a gap stands for. -/
def text : Gap → List Char
  | blanks cs => cs
  | breaks (some '\n') [] => [' ']
  | breaks (some '\n') others => others
  | breaks first others => first.toList ++ others

end Gap

end MediaShelf.Yaml
