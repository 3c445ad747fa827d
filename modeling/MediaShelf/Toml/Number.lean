import MediaShelf.Date
import MediaShelf.Json.Parser
import MediaShelf.Text.Decimal

/-!
# Numbers and dates in TOML

Numbers may have underscores between their digits. Whole numbers have 64 bits and are decimal, or
hexadecimal, octal or binary with a mark in front and without a sign. A decimal that is too large is
refused, unless it is negative; infinity and what is no number have names.

A date is one of the calendar, and a time one of the clock, where a minute may have a leap second.
They may stand together, and then with the distance to the time of Greenwich.
-/

namespace MediaShelf.Toml

/-- Reads digits behind the first one, of which each may have an underscore in front, and gives them
without the underscores. -/
def readMoreDigits (isDigit : Char → Bool) : List Char → List Char × List Char
  | '_' :: c :: rest =>
    if isDigit c then
      let (digits, rest) := readMoreDigits isDigit rest
      (c :: digits, rest)
    else ([], '_' :: c :: rest)
  | c :: rest =>
    if isDigit c then
      let (digits, rest) := readMoreDigits isDigit rest
      (c :: digits, rest)
    else ([], c :: rest)
  | [] => ([], [])

/-- Reads at least one digit. -/
def readDigits (isDigit : Char → Bool) : List Char → Option (List Char × List Char)
  | c :: rest =>
    if isDigit c then
      let (digits, rest) := readMoreDigits isDigit rest
      some (c :: digits, rest)
    else none
  | [] => none

/-- Reads decimal digits. -/
def readDecimalDigits (cs : List Char) : Option (List Char × List Char) :=
  readDigits Text.isAsciiDigit cs

/-- Reads the digits of a whole number. A leading zero stands alone. -/
def readWhole : List Char → Option (List Char × List Char)
  | '0' :: rest => some (['0'], rest)
  | cs => readDecimalDigits cs

/-- Reads a whole number in a base behind its mark. -/
def readBased (base : Nat) (cs : List Char) : Option (Int × List Char) := do
  let (digits, rest) ← readDigits (fun c => (Json.hexValue? c).any (· < base)) cs
  return (Int.ofNat (digits.foldl (fun n c => n * base + (Json.hexValue? c).getD 0) 0), rest)

/-- Splits off a sign, and tells whether it is a minus. -/
def splitSign : List Char → Bool × List Char
  | '+' :: rest => (false, rest)
  | '-' :: rest => (true, rest)
  | rest => (false, rest)

/-- The whole numbers that there are. -/
def range : Text.NumberRange := ⟨-9223372036854775808, 9223372036854775807⟩

/-- Reads a whole number. -/
def readInteger (cs : List Char) : Option (Int × List Char) :=
  let read : Option (Int × List Char) :=
    match cs with
    | '0' :: 'x' :: rest => readBased 16 rest
    | '0' :: 'o' :: rest => readBased 8 rest
    | '0' :: 'b' :: rest => readBased 2 rest
    | cs =>
      let (negative, rest) := splitSign cs
      (readWhole rest).map fun (digits, rest) =>
        let n := Int.ofNat (Text.digitsValue digits)
        (if negative then -n else n, rest)
  read.filter fun (n, _) => range.holds n

/-- Reads the fraction of a number with its point, if there is one. -/
def readFraction : List Char → Option (List Char × List Char)
  | '.' :: rest => readDecimalDigits rest
  | rest => some ([], rest)

/-- Reads the exponent of a number with its letter, if there is one. -/
def readExponent : List Char → Option (Int × List Char)
  | [] => some (0, [])
  | e :: rest =>
    if e = 'e' ∨ e = 'E' then
      let (negative, rest) := splitSign rest
      (readDecimalDigits rest).map fun (digits, rest) =>
        let n := Int.ofNat (Text.digitsValue digits)
        (if negative then -n else n, rest)
    else some (0, e :: rest)

/-- Whether a number goes on with a fraction or an exponent. -/
def startsFraction : List Char → Bool
  | c :: _ => c == '.' || c == 'e' || c == 'E'
  | [] => false

/-- Reads a number with a fraction or an exponent, and gives what follows it. -/
def readDecimal (cs : List Char) : Option (List Char) := do
  let (negative, rest) := splitSign cs
  let (whole, rest) ← readWhole rest
  if !startsFraction rest then none
  else
    let (fraction, rest) ← readFraction rest
    let (exponent, rest) ← readExponent rest
    if negative || (Text.Decimal.ofParts whole fraction exponent).isFinite then some rest else none

/-- Reads a number that has a name, and gives what follows it. -/
def readNamed (cs : List Char) : Option (List Char) :=
  match (splitSign cs).2 with
  | 'i' :: 'n' :: 'f' :: rest => some rest
  | 'n' :: 'a' :: 'n' :: rest => some rest
  | _ => none

/-- Reads a number of exactly two digits that lies in a range. -/
def readPair (least greatest : Nat) : List Char → Option (Nat × List Char)
  | a :: b :: rest =>
    let n := Text.digitsValue [a, b]
    if Text.isAsciiDigit a && Text.isAsciiDigit b && least ≤ n && n ≤ greatest then some (n, rest)
    else none
  | _ => none

/-- Reads a character, and gives what follows it. -/
def readMark (mark : Char) : List Char → Option (List Char)
  | c :: rest => if c = mark then some rest else none
  | [] => none

/-- Reads the fraction of a second, if there is one. -/
def readSplitSecond (cs : List Char) : Option (List Char) :=
  match cs with
  | '.' :: c :: rest =>
    if Text.isAsciiDigit c then some (rest.dropWhile Text.isAsciiDigit) else none
  | '.' :: [] => none
  | rest => some rest

/-- Reads a time of the clock, and gives what follows it. -/
def readTime (cs : List Char) : Option (List Char) := do
  let (_, rest) ← readPair 0 23 cs
  let (_, rest) ← readPair 0 59 (← readMark ':' rest)
  let (_, rest) ← readPair 0 60 (← readMark ':' rest)
  readSplitSecond rest

/-- Reads the distance to the time of Greenwich, if there is one. -/
def readOffset (cs : List Char) : Option (List Char) :=
  match cs with
  | c :: rest =>
    if c = 'Z' ∨ c = 'z' then some rest
    else if c = '+' ∨ c = '-' then do
      let (_, rest) ← readPair 0 23 rest
      let (_, rest) ← readPair 0 59 (← readMark ':' rest)
      return rest
    else some (c :: rest)
  | [] => some []

/-- Reads the time behind a date, if there is one. -/
def readTimeOfDay (cs : List Char) : Option (List Char) :=
  match cs with
  | c :: rest =>
    if (c = 'T' ∨ c = 't' ∨ c = ' ') && (readPair 0 23 rest).any (·.2.head? == some ':') then
      (readTime rest).bind readOffset
    else some cs
  | [] => some []

/-- Reads a date, and gives what follows it. -/
def readDate (cs : List Char) : Option (List Char) := do
  let (century, rest) ← readPair 0 99 cs
  let (year, rest) ← readPair 0 99 rest
  let (month, rest) ← readPair 1 12 (← readMark '-' rest)
  let days := Calendar.daysInMonth (century * 100 + year) month
  let (_, rest) ← readPair 1 days (← readMark '-' rest)
  return rest

end MediaShelf.Toml
