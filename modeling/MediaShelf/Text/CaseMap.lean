import MediaShelf.Text.CaseTable

/-!
# Small and capital letters

Full Unicode case conversion of texts. A letter becomes its counterpart, or several characters
where Unicode asks for that (`ß` in capitals is `SS`), and everything else stays. The one letter
whose small form depends on its surroundings is sigma: at the end of a word it is written `ς`.
-/

namespace MediaShelf.Text

/-- The counterpart of a code point, if the run holds it. -/
def CaseRun.counterpart? (run : CaseRun) (n : Nat) : Option Nat :=
  if run.first ≤ n && n ≤ run.last && (n - run.first) % run.step == 0 then
    some (Int.toNat (n + run.shift))
  else none

/-- The counterpart of a character in the first run that holds it; itself if none does. -/
def counterpart (runs : List CaseRun) (c : Char) : Char :=
  match runs.findSome? (·.counterpart? c.toNat) with
  | some n => Char.ofNat n
  | none => c

/-- Whether a character lies in one of the ranges. -/
def inRanges (ranges : List (Nat × Nat)) (c : Char) : Bool :=
  ranges.any fun range => range.1 ≤ c.toNat && c.toNat ≤ range.2

/-- The small form of a character by itself. Only `İ` takes two characters. -/
def lowerChar (c : Char) : List Char :=
  if c = 'İ' then ['i', '\u0307'] else [counterpart smallRuns c]

/-- The capital form of a character. -/
def upperChar (c : Char) : List Char :=
  match capitalExpansions.lookup c.toNat with
  | some codes => codes.map Char.ofNat
  | none => [counterpart capitalRuns c]

/-- Whether a text, its case-ignorable characters passed over, starts with a cased one. -/
def startsCased (cs : List Char) : Bool :=
  match cs.dropWhile (inRanges caseIgnorableRanges) with
  | [] => false
  | c :: _ => inRanges casedRanges c

/-- The small forms of a text, where `behind` holds the characters before it, nearest first. A
sigma that follows a cased letter and precedes none ends its word. -/
def lowerFrom (behind : List Char) : List Char → List Char
  | [] => []
  | c :: rest =>
    let small :=
      if c = 'Σ' then [if startsCased behind && !startsCased rest then 'ς' else 'σ']
      else lowerChar c
    small ++ lowerFrom (c :: behind) rest

/-- A text in small letters. -/
def lowerText (s : String) : String :=
  String.ofList (lowerFrom [] s.toList)

/-- A text in capital letters. -/
def upperText (s : String) : String :=
  String.ofList (s.toList.flatMap upperChar)

end MediaShelf.Text
