import MediaShelf.Text.Blank
import MediaShelf.Text.Search

/-!
# Safe names

A name is safe when every common filesystem takes it as one component of a path. Reserved
characters are replaced by characters that look alike, three dots by an ellipsis, and control
characters are dropped. None of the replacements is reserved, so a safe name stays as it is.
-/

namespace MediaShelf

/-- The reserved characters and those that stand in for them. -/
def standIns : List (Char × Char) := [
  ('*', '★'), ('|', '¦'), ('\\', '⧹'), ('/', '⁄'), (':', '։'), ('"', '″'), ('<', '‹'), ('>', '›'),
  ('?', '？')]

/-- The character that stands in for a reserved one; any other stands for itself. -/
def standIn (c : Char) : Char :=
  (standIns.lookup c).getD c

/-- Makes a text safe. -/
def safeChars (cs : List Char) : List Char :=
  Text.replaceAll ['.', '.', '.'] ['…'] ((cs.filter fun c => !Text.isControlChar c).map standIn)

/-- Makes a name safe. -/
def safeName (name : String) : String :=
  String.ofList (safeChars name.toList)

end MediaShelf
