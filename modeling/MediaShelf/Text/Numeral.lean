import MediaShelf.Text.Ascii

/-!
# Decimal numerals

Numbers are written with ASCII digits. A numeral is read against a range of integers: a sign `+` is
always allowed, a sign `-` only if the range reaches below zero, so that `-0` is no numeral for a
range of naturals. A numeral whose value is out of range does not read at all; nothing wraps.
-/

namespace MediaShelf.Text

/-- The integers that a numeral may stand for. -/
structure NumberRange where
  least : Int
  greatest : Int
deriving DecidableEq, Repr

namespace NumberRange

/-- Numbers of one byte. -/
def byte : NumberRange := ⟨0, 255⟩

/-- Numbers of 32 bits. -/
def word : NumberRange := ⟨0, 4294967295⟩

/-- Numbers of 64 bits. -/
def long : NumberRange := ⟨0, 18446744073709551615⟩

/-- Numbers of 32 bits with a sign. -/
def signed : NumberRange := ⟨-2147483648, 2147483647⟩

/-- Whether a number lies in the range. -/
def holds (range : NumberRange) (n : Int) : Bool :=
  range.least ≤ n && n ≤ range.greatest

end NumberRange

/-- The value of one ASCII digit. -/
def digitValue (c : Char) : Nat :=
  c.toNat - '0'.toNat

/-- The value of a row of digits, most significant first. -/
def digitsValue (digits : List Char) : Nat :=
  digits.foldl (fun n c => 10 * n + digitValue c) 0

/-- Reads a row of at least one digit and nothing else. -/
def readDigits (cs : List Char) : Option Nat :=
  if cs.isEmpty then none
  else if cs.all isAsciiDigit then some (digitsValue cs)
  else none

/-- Reads a numeral with an optional sign; `-` needs a range that reaches below zero. -/
def readNumeral (range : NumberRange) (cs : List Char) : Option Int :=
  let read : Option Int :=
    match cs with
    | '+' :: digits => (readDigits digits).map Int.ofNat
    | '-' :: digits =>
      if range.least < 0 then (readDigits digits).map fun n => -Int.ofNat n else none
    | digits => (readDigits digits).map Int.ofNat
  read.filter range.holds

/-- Drops a sign. -/
def dropSign : List Char → List Char
  | '+' :: rest => rest
  | '-' :: rest => rest
  | rest => rest

/-- The digits of a natural number, most significant first. -/
def natDigits (n : Nat) : List Char :=
  if n < 10 then [Nat.digitChar n] else natDigits (n / 10) ++ [Nat.digitChar (n % 10)]

/-- The decimal text of a natural number, without leading zeros. -/
def ofNat (n : Nat) : String :=
  String.ofList (natDigits n)

/-- The decimal text of an integer. -/
def ofInt : Int → String
  | .ofNat n => ofNat n
  | .negSucc n => String.ofList ('-' :: natDigits (n + 1))

/-- The digits of a natural number with zeros in front up to `width` characters. -/
def paddedDigits (width n : Nat) : List Char :=
  (natDigits n).leftpad width '0'

end MediaShelf.Text
