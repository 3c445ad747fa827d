import MediaShelf.Proofs.Script.Comparison

/-!
# Bounds of any size

A bound is a numeral behind the mark of an inequality. The numeral may stand for any integer, but a
test knows the numbers of its range only, and a bound that it does not know makes it false, as any
other argument does that it cannot read. So a test of a number holds for a bound if the bound lies
in the range, and the inequality stands (`Condition.evaluate_bound_iff`).

Inside the range, `<` and `>=` are complements and `<` is monotone in its bound. Past the end of the
range neither of the two holds: as the tests see it, no bit depth is below 256, and none is 256 or
above.
-/

namespace MediaShelf

namespace Text

theorem IsDigits.ne_sign {c : Char} {cs : List Char} (h : IsDigits (c :: cs)) :
    c ≠ '+' ∧ c ≠ '-' :=
  ne_sign_of_isAsciiDigit (h.digit c List.mem_cons_self)

/-- A numeral has one value. -/
theorem IsNumeral.unique {cs : List Char} {n m : Int} (h : IsNumeral cs n) (h' : IsNumeral cs m) :
    n = m := by
  cases h with
  | plain hdigits =>
      cases h' with
      | plain _ => rfl
      | plus _ => exact absurd rfl hdigits.ne_sign.1
      | minus _ => exact absurd rfl hdigits.ne_sign.2
  | plus _ =>
      cases h' with
      | plain hdigits => exact absurd rfl hdigits.ne_sign.1
      | plus _ => rfl
  | minus _ =>
      cases h' with
      | plain hdigits => exact absurd rfl hdigits.ne_sign.2
      | minus _ => rfl

end Text

namespace Condition

open Text

section

variable {t : NumericTest} {ctx : NamingContext} {actual n : Int} {numeral : String}

/-- A test holds for a bound that is in its range and on the right side of the number. -/
theorem evaluate_bound_iff {operator : Operator} {mark : String}
    (hactual : t.actual? ctx = some actual)
    (hwritten : operator.IsWritten false mark.toList) (hnumeral : IsNumeral numeral.toList n) :
    evaluate ⟨t.test, mark ++ numeral⟩ ctx = true ↔
      t.range.Admits numeral.toList n ∧ operator.Relates actual n := by
  have hread : Argument.relational (mark ++ numeral).toList = ⟨operator, numeral⟩ := by
    have hplain : Argument.relational ([] ++ (mark.toList ++ ([] ++ (numeral.toList ++ [])))) =
        ⟨operator, String.ofList numeral.toList⟩ :=
      Argument.relational_plain rfl hwritten rfl hnumeral rfl
    simpa using hplain
  rw [evaluate_numeric_iff]
  simp only [Argument.isComparison_iff, hread, readNumeral_eq_some_iff]
  constructor
  · rintro ⟨found, other, m, hfound, ⟨rfl, hadmits⟩, hrelates⟩
    cases hactual.symm.trans hfound
    cases hnumeral.unique hadmits.numeral
    exact ⟨hadmits, hrelates⟩
  · rintro ⟨hadmits, hrelates⟩
    exact ⟨actual, operator, n, hactual, ⟨rfl, hadmits⟩, hrelates⟩

theorem evaluate_less_iff (hactual : t.actual? ctx = some actual)
    (hnumeral : IsNumeral numeral.toList n) :
    evaluate ⟨t.test, "<" ++ numeral⟩ ctx = true ↔
      t.range.Admits numeral.toList n ∧ actual < n := by
  have hwritten : Operator.less.IsWritten false "<".toList := .less false
  exact evaluate_bound_iff hactual hwritten hnumeral

theorem evaluate_greaterOrEqual_iff (hactual : t.actual? ctx = some actual)
    (hnumeral : IsNumeral numeral.toList n) :
    evaluate ⟨t.test, ">=" ++ numeral⟩ ctx = true ↔
      t.range.Admits numeral.toList n ∧ n ≤ actual := by
  have hwritten : Operator.greaterOrEqual.IsWritten false ">=".toList := .greaterOrEqual false
  exact evaluate_bound_iff hactual hwritten hnumeral

/-- The tests for `<` and `>=` are complements for a bound in the range of the test, and none of
them holds for any other bound. Nor does `<` go over to a greater bound, unless that is in the range
too. -/
theorem bounds_complement_in_range (hactual : t.actual? ctx = some actual)
    (hnumeral : IsNumeral numeral.toList n) :
    ¬ (evaluate ⟨t.test, "<" ++ numeral⟩ ctx = true ∧
        evaluate ⟨t.test, ">=" ++ numeral⟩ ctx = true) ∧
      (Xor (evaluate ⟨t.test, "<" ++ numeral⟩ ctx = true)
          (evaluate ⟨t.test, ">=" ++ numeral⟩ ctx = true) ↔
        t.range.Admits numeral.toList n) ∧
      ∀ (other : String) (m : Int), IsNumeral other.toList m → n ≤ m →
        evaluate ⟨t.test, "<" ++ numeral⟩ ctx = true →
          (evaluate ⟨t.test, "<" ++ other⟩ ctx = true ↔ t.range.Admits other.toList m) := by
  have hless := evaluate_less_iff hactual hnumeral
  have hatLeast := evaluate_greaterOrEqual_iff hactual hnumeral
  refine ⟨?_, ?_, ?_⟩
  · rintro ⟨hbelow, habove⟩
    exact absurd (hatLeast.1 habove).2 (not_le.2 (hless.1 hbelow).2)
  · rw [hless, hatLeast]
    constructor
    · rintro (⟨⟨hadmits, -⟩, -⟩ | ⟨⟨hadmits, -⟩, -⟩) <;> exact hadmits
    · intro hadmits
      rcases lt_or_ge actual n with hlt | hge
      · exact Or.inl ⟨⟨hadmits, hlt⟩, fun h => absurd h.2 (not_le.2 hlt)⟩
      · exact Or.inr ⟨⟨hadmits, hge⟩, fun h => absurd h.2 (not_lt.2 hge)⟩
  · intro other m hother hle hbelow
    rw [evaluate_less_iff hactual hother]
    exact and_iff_left ((hless.1 hbelow).2.trans_le hle)

end

/-- A file with eight bits for each colour sample. -/
def eightBitContext : NamingContext :=
  { sampleContext with
    file := { sampleContext.file with
      video := some { width := 1920, height := 1080, bitDepth := some 8 } } }

theorem admits_255 : NumberRange.byte.Admits "255".toList 255 :=
  readNumeral_eq_some_iff.1 (by decide +kernel)

theorem isNumeral_256 : IsNumeral "256".toList 256 := by
  have hadmits : NumberRange.word.Admits "256".toList 256 :=
    readNumeral_eq_some_iff.1 (by decide +kernel)
  exact hadmits.numeral

/-- One byte holds 255, and not 256. -/
theorem bounds_complement_in_range_byte :
    NumericTest.bitDepth.actual? eightBitContext = some 8 ∧ IsNumeral "255".toList 255 ∧
      Xor (evaluate ⟨.bitDepth, "<" ++ "255"⟩ eightBitContext = true)
        (evaluate ⟨.bitDepth, ">=" ++ "255"⟩ eightBitContext = true) ∧
      IsNumeral "256".toList 256 ∧ (255 : Int) ≤ 256 ∧
      evaluate ⟨.bitDepth, "<" ++ "255"⟩ eightBitContext = true ∧
      ¬ evaluate ⟨.bitDepth, "<" ++ "256"⟩ eightBitContext = true := by
  have hactual : NumericTest.bitDepth.actual? eightBitContext = some 8 := rfl
  have hnumeral : IsNumeral "255".toList 255 := admits_255.numeral
  have hbelow : evaluate ⟨.bitDepth, "<" ++ "255"⟩ eightBitContext = true := by decide +kernel
  obtain ⟨-, hcomplement, hgreater⟩ := bounds_complement_in_range hactual hnumeral
  have hpast := hgreater "256" 256 isNumeral_256 (by decide) hbelow
  refine ⟨hactual, hnumeral, hcomplement.2 admits_255, isNumeral_256, by decide, hbelow, ?_⟩
  intro hholds
  exact absurd (hpast.1 hholds).within (by decide)

/-- A bound past the end of the range is neither a complement nor a greater bound. -/
theorem not_bounds_complement_past_byte :
    (¬ ∀ (t : NumericTest) (ctx : NamingContext) (actual n : Int) (numeral : String),
      t.actual? ctx = some actual → IsNumeral numeral.toList n →
        Xor (evaluate ⟨t.test, "<" ++ numeral⟩ ctx = true)
          (evaluate ⟨t.test, ">=" ++ numeral⟩ ctx = true)) ∧
      ¬ ∀ (t : NumericTest) (ctx : NamingContext) (actual n m : Int) (numeral other : String),
        t.actual? ctx = some actual → IsNumeral numeral.toList n → IsNumeral other.toList m →
          n ≤ m → evaluate ⟨t.test, "<" ++ numeral⟩ ctx = true →
            evaluate ⟨t.test, "<" ++ other⟩ ctx = true := by
  have hactual : NumericTest.bitDepth.actual? eightBitContext = some 8 := rfl
  have hless : evaluate ⟨.bitDepth, "<" ++ "256"⟩ eightBitContext = false := by decide +kernel
  have hatLeast : evaluate ⟨.bitDepth, ">=" ++ "256"⟩ eightBitContext = false := by decide +kernel
  have hbelow : evaluate ⟨.bitDepth, "<" ++ "255"⟩ eightBitContext = true := by decide +kernel
  constructor
  · intro h
    rcases h .bitDepth eightBitContext 8 256 "256" hactual isNumeral_256 with
      ⟨hholds, -⟩ | ⟨hholds, -⟩
    · exact absurd (hholds.symm.trans hless) (by decide)
    · exact absurd (hholds.symm.trans hatLeast) (by decide)
  · intro h
    have hholds := h .bitDepth eightBitContext 8 255 256 "255" "256" hactual admits_255.numeral
      isNumeral_256 (by decide) hbelow
    exact absurd (hholds.symm.trans hless) (by decide)

end Condition

end MediaShelf
