import MediaShelf.Text.Numeral

/-!
# Digits

A natural number is written without leading zeros, or with as many as a width asks for, and either
way its digits have its value again.
-/

namespace MediaShelf.Text

/-! ## Single digits -/

theorem digitValue_digitChar {d : Nat} (h : d < 10) : digitValue (Nat.digitChar d) = d := by
  revert d
  decide

theorem isAsciiDigit_digitChar {d : Nat} (h : d < 10) : isAsciiDigit (Nat.digitChar d) = true := by
  revert d
  decide

theorem eq_zero_of_digitChar {d : Nat} (h : d < 10) (hzero : Nat.digitChar d = '0') : d = 0 := by
  revert d
  decide

/-- The digits have the codes from 48 on. -/
theorem toNat_of_isAsciiDigit {c : Char} (h : isAsciiDigit c = true) :
    c.toNat = 48 + digitValue c ∧ digitValue c < 10 := by
  rw [isAsciiDigit, Bool.and_eq_true, decide_eq_true_eq, decide_eq_true_eq, Char.le_def,
    Char.le_def, UInt32.le_iff_toNat_le, UInt32.le_iff_toNat_le] at h
  have hlow : 48 ≤ c.toNat := h.1
  have hhigh : c.toNat ≤ 57 := h.2
  have hvalue : digitValue c = c.toNat - 48 := rfl
  omega

/-! ## The value of digits -/

theorem digitsValue_append_singleton (digits : List Char) (c : Char) :
    digitsValue (digits ++ [c]) = 10 * digitsValue digits + digitValue c := by
  rw [digitsValue, List.foldl_append, List.foldl_cons, List.foldl_nil, digitsValue]

theorem digitsValue_zeros_append (zeros : Nat) (digits : List Char) :
    digitsValue (List.replicate zeros '0' ++ digits) = digitsValue digits := by
  induction zeros with
  | zero => rfl
  | succ zeros ih =>
      rw [List.replicate_succ, List.cons_append, digitsValue, List.foldl_cons]
      exact ih

/-! ## Digits of a number -/

theorem ofNat_zero : ofNat 0 = "0" := by
  rw [ofNat, natDigits]
  rfl

theorem natDigits_ne_nil (n : Nat) : natDigits n ≠ [] := by
  fun_induction natDigits n with
  | case1 n h => exact List.cons_ne_nil _ _
  | case2 n h ih => exact List.concat_ne_nil _ _

theorem isAsciiDigit_of_mem_natDigits {n : Nat} {c : Char} (hc : c ∈ natDigits n) :
    isAsciiDigit c = true := by
  fun_induction natDigits n with
  | case1 n h =>
      rw [List.mem_singleton] at hc
      rw [hc]
      exact isAsciiDigit_digitChar h
  | case2 n h ih =>
      rw [List.mem_append, List.mem_singleton] at hc
      rcases hc with hc | rfl
      · exact ih hc
      · exact isAsciiDigit_digitChar (by omega)

/-- A number starts with a digit. -/
theorem exists_natDigits_eq_cons (n : Nat) :
    ∃ c cs, natDigits n = c :: cs ∧ isAsciiDigit c = true := by
  obtain ⟨c, cs, h⟩ := List.exists_cons_of_ne_nil (natDigits_ne_nil n)
  refine ⟨c, cs, h, isAsciiDigit_of_mem_natDigits (n := n) ?_⟩
  rw [h]
  exact List.mem_cons_self

theorem digitsValue_natDigits (n : Nat) : digitsValue (natDigits n) = n := by
  fun_induction natDigits n with
  | case1 n h =>
      rw [← List.nil_append [Nat.digitChar n], digitsValue_append_singleton, digitValue_digitChar h]
      exact Nat.zero_add n
  | case2 n h ih =>
      rw [digitsValue_append_singleton, ih, digitValue_digitChar (by omega)]
      omega

/-- Only zero is written with a zero in front. -/
theorem eq_zero_of_head?_natDigits {n : Nat} (hzero : (natDigits n).head? = some '0') : n = 0 := by
  fun_induction natDigits n with
  | case1 n h =>
      rw [List.head?_cons, Option.some.injEq] at hzero
      exact eq_zero_of_digitChar h hzero
  | case2 n h ih =>
      have hfront : (natDigits (n / 10)).head? = some '0' := by
        cases hdigits : natDigits (n / 10) with
        | nil => exact absurd hdigits (natDigits_ne_nil _)
        | cons c rest =>
            rw [hdigits] at hzero
            exact hzero
      have hless := ih hfront
      omega

theorem length_natDigits_le {n width : Nat} (h : n < Nat.pow 10 width) (hwidth : 0 < width) :
    (natDigits n).length ≤ width := by
  induction width generalizing n with
  | zero => omega
  | succ width ih =>
      rw [natDigits]
      split
      · rw [List.length_singleton]
        omega
      · have hpow : Nat.pow 10 (width + 1) = Nat.pow 10 width * 10 := rfl
        have hfront : n / 10 < Nat.pow 10 width := by omega
        have hpos : 0 < width := by
          rcases Nat.eq_zero_or_pos width with rfl | hpos
          · have hone : Nat.pow 10 0 = 1 := rfl
            omega
          · exact hpos
        rw [List.length_append, List.length_singleton]
        exact Nat.succ_le_succ (ih hfront hpos)

/-! ## Padded digits -/

theorem paddedDigits_eq (width n : Nat) :
    paddedDigits width n =
      List.replicate (width - (natDigits n).length) '0' ++ natDigits n := by
  rw [paddedDigits, List.leftpad]

theorem length_paddedDigits {width n : Nat} (h : n < Nat.pow 10 width) (hwidth : 0 < width) :
    (paddedDigits width n).length = width := by
  have hle := length_natDigits_le h hwidth
  rw [paddedDigits_eq, List.length_append, List.length_replicate]
  omega

theorem digitsValue_paddedDigits (width n : Nat) : digitsValue (paddedDigits width n) = n := by
  rw [paddedDigits_eq, digitsValue_zeros_append, digitsValue_natDigits]

theorem isAsciiDigit_of_mem_paddedDigits {width n : Nat} {c : Char}
    (h : c ∈ paddedDigits width n) : isAsciiDigit c = true := by
  rw [paddedDigits_eq, List.mem_append] at h
  rcases h with h | h
  · rw [List.eq_of_mem_replicate h]
    decide
  · exact isAsciiDigit_of_mem_natDigits h

theorem exists_paddedDigits_eq_cons (width n : Nat) :
    ∃ c cs, paddedDigits width n = c :: cs ∧ isAsciiDigit c = true := by
  have hne : paddedDigits width n ≠ [] := by
    rw [paddedDigits_eq]
    exact List.append_ne_nil_of_right_ne_nil _ (natDigits_ne_nil n)
  obtain ⟨c, cs, h⟩ := List.exists_cons_of_ne_nil hne
  refine ⟨c, cs, h, isAsciiDigit_of_mem_paddedDigits (?_ : c ∈ paddedDigits width n)⟩
  rw [h]
  exact List.mem_cons_self

/-! ## Numerals -/

/-- A row of at least one digit. -/
structure IsDigits (cs : List Char) : Prop where
  nonempty : cs ≠ []
  digit : ∀ c ∈ cs, isAsciiDigit c = true

theorem readDigits_eq_some_iff {cs : List Char} {n : Nat} :
    readDigits cs = some n ↔ IsDigits cs ∧ digitsValue cs = n := by
  rw [readDigits]
  split
  · next hempty =>
      refine iff_of_false (by simp) ?_
      rintro ⟨hdigits, -⟩
      exact hdigits.nonempty (List.isEmpty_iff.1 hempty)
  · next hempty =>
      split
      · next hall =>
          have hdigits : IsDigits cs :=
            ⟨fun h => hempty (List.isEmpty_iff.2 h), List.all_eq_true.1 hall⟩
          rw [Option.some.injEq, and_iff_right hdigits]
      · next hall =>
          refine iff_of_false (by simp) ?_
          rintro ⟨hdigits, -⟩
          exact hall (List.all_eq_true.2 hdigits.digit)

theorem readDigits_paddedDigits (width n : Nat) : readDigits (paddedDigits width n) = some n := by
  obtain ⟨c, cs, hcons, -⟩ := exists_paddedDigits_eq_cons width n
  have hdigits : IsDigits (paddedDigits width n) :=
    ⟨by rw [hcons]; exact List.cons_ne_nil c cs, fun _ => isAsciiDigit_of_mem_paddedDigits⟩
  exact readDigits_eq_some_iff.2 ⟨hdigits, digitsValue_paddedDigits width n⟩

theorem NumberRange.holds_iff {range : NumberRange} {n : Int} :
    range.holds n = true ↔ range.least ≤ n ∧ n ≤ range.greatest := by
  rw [holds, Bool.and_eq_true, decide_eq_true_eq, decide_eq_true_eq]

/-- A decimal numeral and its value. -/
inductive IsNumeral : List Char → Int → Prop where
  | plain {digits : List Char} (h : IsDigits digits) : IsNumeral digits (digitsValue digits)
  | plus {digits : List Char} (h : IsDigits digits) : IsNumeral ('+' :: digits) (digitsValue digits)
  | minus {digits : List Char} (h : IsDigits digits) :
      IsNumeral ('-' :: digits) (-digitsValue digits)

/-- A numeral stands for a number of a range. Only a range with negative numbers knows `-`. -/
structure NumberRange.Admits (range : NumberRange) (cs : List Char) (n : Int) : Prop where
  numeral : IsNumeral cs n
  signed : cs.head? = some '-' → range.least < 0
  within : range.holds n = true

/-- No digit is a sign. -/
theorem ne_sign_of_isAsciiDigit {c : Char} (h : isAsciiDigit c = true) : c ≠ '+' ∧ c ≠ '-' := by
  constructor <;> rintro rfl <;> exact absurd h (by decide)

theorem readNumeral_eq_some_iff {range : NumberRange} {cs : List Char} {n : Int} :
    readNumeral range cs = some n ↔ range.Admits cs n := by
  unfold readNumeral
  rw [Option.filter_eq_some_iff]
  constructor
  · rintro ⟨hread, hwithin⟩
    split at hread
    · obtain ⟨value, hvalue, rfl⟩ := Option.map_eq_some_iff.1 hread
      obtain ⟨hdigits, rfl⟩ := readDigits_eq_some_iff.1 hvalue
      exact ⟨.plus hdigits, by simp, hwithin⟩
    · split at hread
      · next hbelow =>
          obtain ⟨value, hvalue, rfl⟩ := Option.map_eq_some_iff.1 hread
          obtain ⟨hdigits, rfl⟩ := readDigits_eq_some_iff.1 hvalue
          exact ⟨.minus hdigits, fun _ => hbelow, hwithin⟩
      · cases hread
    · obtain ⟨value, hvalue, rfl⟩ := Option.map_eq_some_iff.1 hread
      obtain ⟨hdigits, rfl⟩ := readDigits_eq_some_iff.1 hvalue
      refine ⟨.plain hdigits, fun hhead => ?_, hwithin⟩
      exact absurd rfl (ne_sign_of_isAsciiDigit (hdigits.digit _ (List.mem_of_head? hhead))).2
  · rintro ⟨hnumeral, hsigned, hwithin⟩
    refine ⟨?_, hwithin⟩
    cases hnumeral with
    | @plain digits hdigits =>
        have hread := readDigits_eq_some_iff.2 ⟨hdigits, rfl⟩
        split
        · exact absurd rfl (ne_sign_of_isAsciiDigit (hdigits.digit _ List.mem_cons_self)).1
        · exact absurd rfl (ne_sign_of_isAsciiDigit (hdigits.digit _ List.mem_cons_self)).2
        · rw [hread]
          rfl
    | plus hdigits => exact congrArg (Option.map _) (readDigits_eq_some_iff.2 ⟨hdigits, rfl⟩)
    | minus hdigits =>
        refine (if_pos (hsigned rfl)).trans ?_
        rw [readDigits_eq_some_iff.2 ⟨hdigits, rfl⟩]
        rfl

end MediaShelf.Text
