import MediaShelf.Json.Basic
import MediaShelf.Text.Decimal

/-!
# The range of numbers

A JSON number may be of any size, but a reader that works numbers out keeps those that are no
integers of 64 bits in double precision. It takes as many digits as fit in 64 bits, multiplies them
by a power of ten, and rounds digits, power and product one after the other. A number whose product
is rounded to `2 ^ 1024` or more is out of range. Numbers that are too small are rounded to zero and
do no harm.
-/

namespace MediaShelf.Json

/-- A whole number rounded to 53 binary digits; a half goes to the even neighbour. -/
def roundToDouble (n : Nat) : Nat :=
  let unit := Nat.pow 2 (n.log2 + 1 - 53)
  let quotient := n / unit
  let remainder := n % unit
  if 2 * remainder < unit || (2 * remainder == unit && quotient % 2 == 0) then quotient * unit
  else (quotient + 1) * unit

/-- Takes digits behind a number as long as the number fits in 64 bits, and gives the number and how
many digits have been taken. -/
def takeDigits (n : Nat) : List Char → Nat × Nat
  | [] => (n, 0)
  | c :: rest =>
    let longer := 10 * n + Text.digitValue c
    if longer < Nat.pow 2 64 then
      let (n, taken) := takeDigits longer rest
      (n, taken + 1)
    else (n, 0)

/-- The largest power of ten in double precision. -/
def largestPower : Nat := 308

/-- Whether digits times a power of ten are out of range. -/
def exceeds (significand : Nat) (exponent : Int) : Bool :=
  significand != 0 && 0 ≤ exponent
    && (largestPower < exponent
      || Nat.pow 2 1024 ≤ roundToDouble (roundToDouble significand
          * roundToDouble (Nat.pow 10 exponent.toNat)))

/-- Whether a number with a spelling is in range. -/
def isInRange (spelling : List Char) : Bool :=
  let magnitude := Text.dropSign spelling
  let whole := magnitude.takeWhile Text.isAsciiDigit
  let (fraction, scale) := Text.Decimal.splitFraction (magnitude.dropWhile Text.isAsciiDigit)
  let (n, taken) := takeDigits 0 whole
  let (n, places) := takeDigits n fraction
  let exponent := Int.ofNat (whole.length - taken) - places
  match Text.Decimal.readScale scale with
  | some shift => !exceeds n (exponent + shift)
  | none => false

end MediaShelf.Json
