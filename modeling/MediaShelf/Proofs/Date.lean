import MediaShelf.Date
import MediaShelf.Proofs.Text.Numeral

/-!
# Dates and their texts

The text of a date is read as that date again. A year has four digits at most, so the three numbers
of the text have fixed widths and the reader finds each of them in its place; the sign of the year
stands in front and is no digit.
-/

namespace MediaShelf

open Text

theorem Calendar.daysInMonth_le (year : Int) (month : Nat) : daysInMonth year month ≤ 31 := by
  unfold daysInMonth
  repeat' split
  all_goals omega

namespace Date

/-- The numbers of a date are read in their places. -/
theorem readUnsigned?_append (negative : Bool) {year month day : List Char}
    (hyear : year.length = 4) (hmonth : month.length = 2) (hday : day.length = 2) :
    readUnsigned? negative (year ++ '-' :: month ++ '-' :: day) =
      (readDigits year).bind fun y => (readDigits month).bind fun m =>
        (readDigits day).bind fun d =>
          ofParts? (if negative then -Int.ofNat y else Int.ofNat y) m d := by
  match year, hyear, month, hmonth, day, hday with
  | [y₁, y₂, y₃, y₄], _, [m₁, m₂], _, [d₁, d₂], _ => rfl

theorem ofParts?_self (date : Date) : ofParts? date.year date.month date.day = some date :=
  dif_pos date.isDate

theorem readUnsigned?_printed (date : Date) (negative : Bool)
    (hsign : (if negative then -Int.ofNat date.year.natAbs else Int.ofNat date.year.natAbs) =
      date.year) :
    readUnsigned? negative (paddedDigits 4 date.year.natAbs ++ '-' :: paddedDigits 2 date.month
      ++ '-' :: paddedDigits 2 date.day) = some date := by
  obtain ⟨hleast, hgreatest, -, hmonth, -, hday⟩ := date.isDate
  have hdays := Calendar.daysInMonth_le date.year date.month
  have hyear : date.year.natAbs < 10000 := by omega
  have hmonth : date.month < 100 := by omega
  have hday : date.day < 100 := by omega
  rw [readUnsigned?_append negative (length_paddedDigits hyear (by omega))
    (length_paddedDigits hmonth (by omega)) (length_paddedDigits hday (by omega)),
    readDigits_paddedDigits, Option.bind_some, readDigits_paddedDigits, Option.bind_some,
    readDigits_paddedDigits, Option.bind_some, hsign, ofParts?_self]

theorem read?_digit {c : Char} (hc : isAsciiDigit c = true) (rest : List Char) :
    read? (c :: rest) = readUnsigned? false (c :: rest) := by
  rw [read?]
  · rintro _ ⟨⟩
    exact absurd hc (by decide)
  · rintro _ ⟨⟩
    exact absurd hc (by decide)

theorem read?_print (date : Date) : read? date.print = some date := by
  rw [print]
  split
  · next hnegative =>
      rw [List.cons_append, List.nil_append, List.cons_append, List.cons_append, read?]
      exact readUnsigned?_printed date true (by rw [if_pos rfl, Int.ofNat_eq_natCast]; omega)
  · next hpositive =>
      obtain ⟨c, cs, hyear, hc⟩ := exists_paddedDigits_eq_cons 4 date.year.natAbs
      have hread := readUnsigned?_printed date false
        (by rw [if_neg (by decide), Int.ofNat_eq_natCast]; omega)
      rw [hyear, List.cons_append, List.cons_append] at hread
      rw [List.nil_append, hyear, List.cons_append, List.cons_append, read?_digit hc, hread]

theorem ofJson?_toJson (date : Date) : ofJson? date.toJson = some date := by
  rw [toJson, ofJson?, render, String.toList_ofList, read?_print]

end Date

end MediaShelf
