/-!
# Texts in bytes

A file is a row of bytes, and a text in it is written in UTF-8: a character takes one to four bytes,
the first of which tells how many. Only the shortest way to write a character counts, and halves of
surrogate pairs are no characters.

Some files have to be read even if not all of their bytes are part of a text. What stands for such a
byte is up to the reader of the file.
-/

namespace MediaShelf.Text

/-- The character with a number, if there is one. -/
def scalar? (n : Nat) : Option Char :=
  if n.isValidChar then some (Char.ofNat n) else none

/-- What a byte that goes on with a character adds to it. -/
def continuation? (byte : UInt8) : Option Nat :=
  if 0x80 ≤ byte && byte < 0xC0 then some (byte.toNat - 0x80) else none

/-- The number that bytes go on with, given the part of it that is read already. -/
def continued? (n : Nat) : List UInt8 → Option Nat
  | [] => some n
  | byte :: rest => (continuation? byte).bind fun part => continued? (n * 64 + part) rest

/-- How many bytes a character takes, given the first one. -/
def widthOf (byte : UInt8) : Nat :=
  if byte < 0xC0 then 1 else if byte < 0xE0 then 2 else if byte < 0xF0 then 3 else 4

/-- The least number of a character that takes so many bytes. -/
def leastOf (width : Nat) : Nat :=
  if width = 1 then 0 else if width = 2 then 0x80 else if width = 3 then 0x800 else 0x10000

/-- What the first byte of a character says about it. -/
def leadOf (byte : UInt8) : Nat :=
  if byte < 0xC0 then byte.toNat
  else if byte < 0xE0 then byte.toNat - 0xC0
  else if byte < 0xF0 then byte.toNat - 0xE0
  else byte.toNat - 0xF0

/-- The character that starts with a byte and goes on with others. -/
def charAt? (first : UInt8) (others : List UInt8) : Option Char :=
  let width := widthOf first
  let rest := others.take (width - 1)
  if (0x80 ≤ first && first < 0xC0) || rest.length + 1 ≠ width then none
  else ((continued? (leadOf first) rest).filter (leastOf width ≤ ·)).bind scalar?

/-- The characters of some bytes, where the first `skip` bytes belong to a character that has been
read already. In place of a byte that is part of no character stands `standIn`. -/
def decodeFrom (standIn : List Char) (skip : Nat) : List UInt8 → List Char
  | [] => []
  | byte :: rest =>
    match skip with
    | skip + 1 => decodeFrom standIn skip rest
    | 0 =>
      match charAt? byte rest with
      | some c => c :: decodeFrom standIn (widthOf byte - 1) rest
      | none => standIn ++ decodeFrom standIn 0 rest

/-- The characters of some bytes, with `standIn` for every byte that is part of none. -/
def decodeWith (standIn : List Char) (bytes : List UInt8) : List Char :=
  decodeFrom standIn 0 bytes

end MediaShelf.Text
