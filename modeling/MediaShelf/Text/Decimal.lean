import MediaShelf.Text.Numeral

/-!
# Decimals

A decimal has digits with a point among them, perhaps an exponent, or both. What matters about a
decimal is whether it is one at all, and whether it is finite: a decimal is kept as a floating-point
number of double precision, whose 53 binary digits and largest exponent leave no room for numbers
from `2 ^ 1024` on, nor for those that are rounded up to it.
-/

namespace MediaShelf.Text

/-- A decimal without a sign: digits as a whole number, times a power of ten. -/
structure Decimal where
  significand : Nat
  /-- The exponent of the power of ten. -/
  exponent : Int
deriving DecidableEq, Repr

namespace Decimal

/-- Reads an exponent behind its letter. -/
def readExponent : List Char → Option Int
  | '+' :: rest => (readDigits rest).map Int.ofNat
  | '-' :: rest => (readDigits rest).map fun n => -Int.ofNat n
  | rest => (readDigits rest).map Int.ofNat

/-- Reads an exponent with its letter; nothing is no exponent. -/
def readScale : List Char → Option Int
  | [] => some 0
  | e :: rest => if e = 'e' ∨ e = 'E' then readExponent rest else none

/-- The decimal with some digits in front of the point and behind it, and an exponent. -/
def ofParts (whole fraction : List Char) (exponent : Int) : Decimal :=
  ⟨digitsValue (whole ++ fraction), exponent - fraction.length⟩

/-- The digits behind a point at the front of a text, and what follows them. Without a point there
are none. -/
def splitFraction : List Char → List Char × List Char
  | '.' :: rest => (rest.takeWhile isAsciiDigit, rest.dropWhile isAsciiDigit)
  | rest => ([], rest)

/-- Reads a decimal without a sign. Digits may be missing on one side of the point, and so may the
point. -/
def read? (cs : List Char) : Option Decimal :=
  let whole := cs.takeWhile isAsciiDigit
  let (fraction, scale) := splitFraction (cs.dropWhile isAsciiDigit)
  if whole.isEmpty && fraction.isEmpty then none
  else (readScale scale).map (ofParts whole fraction)

/-- The least number that is too large for a finite number: the middle between the largest one and
the power of two behind it. -/
def bound : Nat :=
  Nat.pow 2 1024 - Nat.pow 2 970

/-- Whether a decimal is finite after it has been rounded. The number of its digits settles that for
all but those of 309 digits. -/
def isFinite (decimal : Decimal) : Bool :=
  let size := (natDigits decimal.significand).length + decimal.exponent
  decimal.significand == 0 || size < 309
    || (size == 309
      && decimal.significand * Nat.pow 10 decimal.exponent.toNat
        < bound * Nat.pow 10 (-decimal.exponent).toNat)

end Decimal

/-- Whether a text spells a decimal with a sign or without one. -/
def isDecimal (cs : List Char) : Bool :=
  (Decimal.read? (dropSign cs)).isSome

end MediaShelf.Text
