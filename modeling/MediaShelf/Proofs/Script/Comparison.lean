import MediaShelf.Proofs.Script.Extension
import MediaShelf.Proofs.Text.Visible
import MediaShelf.Script.Condition
import Mathlib.Tactic.FinCases

/-!
# Tests of numbers

Seven tests compare a number of the file, its episode or its show with a numeral. The texts that
they understand are given by a grammar (`Argument.IsComparison`): blanks may stand anywhere but
inside an operator or the numeral, and a `!` in front of an inequality has no meaning. Reading an
argument gives an operator and a number exactly if the argument is such a text
(`Argument.isComparison_iff`), so a test holds exactly if there is a number to look at and the
operator stands between it and the numeral (`Condition.evaluate_numeric_iff`).

A number that is not known makes the test false. The year is the exception: a show of unknown age
counts as one of the year 0, and is compared as such.
-/

namespace MediaShelf

namespace Text

/-! ## Both ends of a numeral -/

theorem IsDigits.ends {cs : List Char} (h : IsDigits cs) :
    ∃ front d, cs = front ++ [d] ∧ isBlankChar d = false :=
  ⟨cs.dropLast, cs.getLast h.nonempty, (List.dropLast_append_getLast h.nonempty).symm,
    isBlankChar_of_isAsciiDigit (h.digit _ (List.getLast_mem h.nonempty))⟩

theorem IsNumeral.ends {cs : List Char} {n : Int} (h : IsNumeral cs n) :
    ∃ front d, cs = front ++ [d] ∧ isBlankChar d = false := by
  cases h with
  | plain hdigits => exact hdigits.ends
  | plus hdigits =>
      obtain ⟨front, d, rfl, hd⟩ := hdigits.ends
      exact ⟨'+' :: front, d, rfl, hd⟩
  | minus hdigits =>
      obtain ⟨front, d, rfl, hd⟩ := hdigits.ends
      exact ⟨'-' :: front, d, rfl, hd⟩

/-- The characters of operators. -/
def operatorChars : List Char := ['!', '<', '=', '>']

theorem not_mem_operatorChars {c : Char} (h : isAsciiDigit c = true) : c ∉ operatorChars := by
  intro hc
  rw [operatorChars] at hc
  fin_cases hc <;> exact absurd h (by decide)

theorem IsNumeral.starts {cs : List Char} {n : Int} (h : IsNumeral cs n) :
    ∃ c rest, cs = c :: rest ∧ isBlankChar c = false ∧ c ∉ operatorChars := by
  cases h with
  | plain hdigits =>
      obtain ⟨c, rest, rfl⟩ := List.exists_cons_of_ne_nil hdigits.nonempty
      have hc := hdigits.digit c List.mem_cons_self
      exact ⟨c, rest, rfl, isBlankChar_of_isAsciiDigit hc, not_mem_operatorChars hc⟩
  | plus hdigits => exact ⟨'+', _, rfl, by decide, by decide⟩
  | minus hdigits => exact ⟨'-', _, rfl, by decide, by decide⟩

theorem IsNumeral.trimStart_eq {cs : List Char} {n : Int} (h : IsNumeral cs n) :
    trimStart cs = cs := by
  obtain ⟨c, rest, rfl, hc, -⟩ := h.starts
  exact trimStart_cons hc rest

theorem IsNumeral.trimEnd_eq {cs : List Char} {n : Int} (h : IsNumeral cs n) :
    trimEnd cs = cs := by
  obtain ⟨front, d, rfl, hd⟩ := h.ends
  exact trimEnd_concat hd front

/-- Of a text that ends with a numeral, only the blanks around it are dropped. -/
theorem IsNumeral.trim_append {cs : List Char} {n : Int} (h : IsNumeral cs n) (front : List Char)
    {blanks : List Char} (hblanks : isBlank blanks = true) :
    trim (front ++ (cs ++ blanks)) = trimStart (front ++ cs) := by
  obtain ⟨init, d, rfl, hd⟩ := h.ends
  rw [List.append_assoc, List.singleton_append, ← List.append_assoc, trim_append_cons hd hblanks,
    ← List.append_assoc, trimStart_append_cons hd]

end Text

namespace Operator

/-- How an operator is written, given whether a `!` stands in front. -/
inductive IsWritten : Operator → Bool → List Char → Prop where
  | equal : IsWritten .equal false []
  | notEqual : IsWritten .notEqual true []
  | greater (negated : Bool) : IsWritten .greater negated ['>']
  | greaterOrEqual (negated : Bool) : IsWritten .greaterOrEqual negated ['>', '=']
  | less (negated : Bool) : IsWritten .less negated ['<']
  | lessOrEqual (negated : Bool) : IsWritten .lessOrEqual negated ['<', '=']

/-- An operator stands between two numbers. -/
def Relates : Operator → Int → Int → Prop
  | equal, actual, n => actual = n
  | notEqual, actual, n => actual ≠ n
  | greater, actual, n => actual > n
  | greaterOrEqual, actual, n => actual ≥ n
  | less, actual, n => actual < n
  | lessOrEqual, actual, n => actual ≤ n

/-- The laws of comparing one number with another, for what is said with each operator. -/
structure IsTrichotomous (holds : Operator → Prop) : Prop where
  exactlyOne : ∃! operator, operator ∈ [less, equal, greater] ∧ holds operator
  lessOrEqual : holds lessOrEqual ↔ holds less ∨ holds equal
  greaterOrEqual : holds greaterOrEqual ↔ holds greater ∨ holds equal
  notEqual : holds notEqual ↔ holds less ∨ holds greater

theorem isTrichotomous_relates (actual n : Int) : IsTrichotomous (Relates · actual n) where
  exactlyOne := by
    simp only [List.mem_cons, List.not_mem_nil, or_false]
    rcases lt_trichotomy actual n with h | h | h
    · refine ⟨less, ⟨by simp, h⟩, ?_⟩
      rintro operator ⟨rfl | rfl | rfl, hrelates⟩
      · rfl
      · exact absurd hrelates h.ne
      · exact absurd hrelates h.asymm
    · refine ⟨equal, ⟨by simp, h⟩, ?_⟩
      rintro operator ⟨rfl | rfl | rfl, hrelates⟩
      · exact absurd h (ne_of_lt hrelates)
      · rfl
      · exact absurd h (ne_of_gt hrelates)
    · refine ⟨greater, ⟨by simp, h⟩, ?_⟩
      rintro operator ⟨rfl | rfl | rfl, hrelates⟩
      · exact absurd hrelates h.asymm
      · exact absurd hrelates h.ne'
      · rfl
  lessOrEqual := le_iff_lt_or_eq
  greaterOrEqual := by
    simp only [Relates]
    omega
  notEqual := ne_iff_lt_or_gt

end Operator

namespace Argument

open Text

theorem compare_eq_true_iff {argument : Argument} {actual n : Int} :
    argument.compare actual n = true ↔ argument.operator.Relates actual n := by
  unfold compare Operator.Relates
  cases argument.operator <;> simp

/-! ## The grammar of comparisons -/

/-- A text that compares with a number of a range: an operator and a numeral, with blanks around
each of its parts. -/
inductive IsComparison (range : NumberRange) (operator : Operator) (n : Int) :
    List Char → Prop where
  | plain {front mark gap numeral back : List Char}
      (blankFront : isBlank front = true)
      (written : operator.IsWritten false mark)
      (blankGap : isBlank gap = true)
      (admits : range.Admits numeral n)
      (blankBack : isBlank back = true) :
      IsComparison range operator n (front ++ (mark ++ (gap ++ (numeral ++ back))))
  | negated {front between mark gap numeral back : List Char}
      (blankFront : isBlank front = true)
      (blankBetween : isBlank between = true)
      (written : operator.IsWritten true mark)
      (blankGap : isBlank gap = true)
      (admits : range.Admits numeral n)
      (blankBack : isBlank back = true) :
      IsComparison range operator n
        (front ++ '!' :: (between ++ (mark ++ (gap ++ (numeral ++ back)))))

/-! ## Reading a comparison -/

theorem splitInequality_of_ne {text : List Char} (h : ∀ c ∈ text.head?, c ≠ '<' ∧ c ≠ '>')
    (negated : Bool) : splitInequality negated text = (equalityOperator negated, text) := by
  unfold splitInequality
  split
  · exact absurd rfl (h '>' rfl).2
  · exact absurd rfl (h '>' rfl).2
  · exact absurd rfl (h '<' rfl).1
  · exact absurd rfl (h '<' rfl).1
  · rfl

theorem splitInequality_of_not_mem {c : Char} (h : c ∉ operatorChars) (negated : Bool)
    (cs : List Char) :
    splitInequality negated (c :: cs) = (equalityOperator negated, c :: cs) := by
  refine splitInequality_of_ne (fun d hd => ?_) negated
  obtain rfl : c = d := Option.some.inj hd
  constructor <;> rintro rfl <;> exact h (by decide)

/-- No `=` can be read behind the blanks in front of a number. -/
theorem blanks_append_ne {gap cs : List Char} {c : Char} (blankGap : isBlank gap = true)
    (h : c ∉ operatorChars) (rest : List Char) : gap ++ c :: cs ≠ '=' :: rest := by
  intro heq
  cases gap with
  | nil =>
      cases heq
      exact h (by decide)
  | cons d gap =>
      cases heq
      cases List.all_eq_true.1 blankGap '=' List.mem_cons_self

/-- The mark of an operator is read off the front, and the numeral is left. -/
theorem splitInequality_of_isWritten {operator : Operator} {negated : Bool}
    {mark gap numeral : List Char} {n : Int} (written : operator.IsWritten negated mark)
    (blankGap : isBlank gap = true) (hnumeral : IsNumeral numeral n) :
    ∃ rest, splitInequality negated (trimStart (mark ++ (gap ++ numeral))) = (operator, rest) ∧
      trimStart rest = numeral := by
  have hgap : trimStart (gap ++ numeral) = numeral := by
    rw [trimStart_append blankGap, hnumeral.trimStart_eq]
  obtain ⟨c, cs, rfl, -, hplain⟩ := hnumeral.starts
  cases written with
  | equal =>
      refine ⟨c :: cs, ?_, hnumeral.trimStart_eq⟩
      rw [List.nil_append, hgap, splitInequality_of_not_mem hplain]
      rfl
  | notEqual =>
      refine ⟨c :: cs, ?_, hnumeral.trimStart_eq⟩
      rw [List.nil_append, hgap, splitInequality_of_not_mem hplain]
      rfl
  | greater =>
      refine ⟨gap ++ c :: cs, ?_, hgap⟩
      rw [List.singleton_append, trimStart_cons (by decide), splitInequality]
      exact blanks_append_ne blankGap hplain
  | greaterOrEqual => exact ⟨gap ++ c :: cs, rfl, hgap⟩
  | less =>
      refine ⟨gap ++ c :: cs, ?_, hgap⟩
      rw [List.singleton_append, trimStart_cons (by decide), splitInequality]
      exact blanks_append_ne blankGap hplain
  | lessOrEqual => exact ⟨gap ++ c :: cs, rfl, hgap⟩

/-- What is read off the front is the mark of the operator. -/
theorem exists_isWritten {negated : Bool} {cs rest : List Char} {operator : Operator}
    (h : splitInequality negated cs = (operator, rest)) :
    ∃ mark, operator.IsWritten negated mark ∧ cs = mark ++ rest := by
  unfold splitInequality at h
  split at h <;> cases h
  · exact ⟨_, .greaterOrEqual negated, rfl⟩
  · exact ⟨_, .greater negated, rfl⟩
  · exact ⟨_, .lessOrEqual negated, rfl⟩
  · exact ⟨_, .less negated, rfl⟩
  · cases negated
    · exact ⟨_, .equal, rfl⟩
    · exact ⟨_, .notEqual, rfl⟩

theorem relational_of_splitNegation {operator : Operator} {negated : Bool}
    {text mark gap numeral : List Char} {n : Int}
    (hsplit : splitNegation text = (negated, trimStart (mark ++ (gap ++ numeral))))
    (written : operator.IsWritten negated mark) (blankGap : isBlank gap = true)
    (hnumeral : IsNumeral numeral n) :
    relational text = ⟨operator, String.ofList numeral⟩ := by
  obtain ⟨rest, hread, hrest⟩ := splitInequality_of_isWritten written blankGap hnumeral
  have htrim : trim rest = numeral := by rw [trim, hrest, hnumeral.trimEnd_eq]
  simp only [relational, hsplit, hread, htrim]

/-- A text with an operator that is not negated does not start with `!`. -/
theorem trimStart_ne_negation {operator : Operator} {mark gap numeral : List Char} {n : Int}
    (written : operator.IsWritten false mark) (blankGap : isBlank gap = true)
    (hnumeral : IsNumeral numeral n) (rest : List Char) :
    trimStart (mark ++ (gap ++ numeral)) ≠ '!' :: rest := by
  intro hnegated
  obtain ⟨behind, hread, hbehind⟩ := splitInequality_of_isWritten written blankGap hnumeral
  rw [hnegated] at hread
  -- No inequality starts with `!`, so it would have to be the numeral that does.
  obtain ⟨-, rfl⟩ : Operator.equal = operator ∧ '!' :: rest = behind := Prod.mk.inj hread
  obtain ⟨c, cs, hcons, -, hplain⟩ := hnumeral.starts
  rw [trimStart_cons (by decide), hcons] at hbehind
  cases hbehind
  exact hplain (by decide)

/-- A numeral is read behind its operator, whether or not some range knows it. -/
theorem relational_plain {operator : Operator} {front mark gap numeral back : List Char} {n : Int}
    (blankFront : isBlank front = true) (written : operator.IsWritten false mark)
    (blankGap : isBlank gap = true) (hnumeral : IsNumeral numeral n)
    (blankBack : isBlank back = true) :
    relational (front ++ (mark ++ (gap ++ (numeral ++ back)))) =
      ⟨operator, String.ofList numeral⟩ := by
  have htrim : trim (front ++ (mark ++ (gap ++ (numeral ++ back)))) =
      trimStart (mark ++ (gap ++ numeral)) := by
    have hend := hnumeral.trim_append (front ++ (mark ++ gap)) blankBack
    simp only [List.append_assoc] at hend
    rw [hend, trimStart_append blankFront]
  refine relational_of_splitNegation ?_ written blankGap hnumeral
  unfold splitNegation
  rw [htrim]
  split
  · next rest hrest => exact absurd hrest (trimStart_ne_negation written blankGap hnumeral rest)
  · rfl

theorem relational_of_isComparison {range : NumberRange} {operator : Operator} {n : Int}
    {text : List Char} (h : IsComparison range operator n text) :
    ∃ numeral, relational text = ⟨operator, String.ofList numeral⟩ ∧ range.Admits numeral n := by
  cases h with
  | @plain front mark gap numeral back blankFront written blankGap admits blankBack =>
      exact ⟨numeral, relational_plain blankFront written blankGap admits.numeral blankBack, admits⟩
  | @negated front between mark gap numeral back blankFront blankBetween written blankGap admits
      blankBack =>
      refine ⟨numeral, ?_, admits⟩
      have htrim : trim (front ++ '!' :: (between ++ (mark ++ (gap ++ (numeral ++ back))))) =
          '!' :: (between ++ (mark ++ (gap ++ numeral))) := by
        have hend := admits.numeral.trim_append (front ++ '!' :: (between ++ (mark ++ gap)))
          blankBack
        simp only [List.append_assoc, List.cons_append] at hend
        rw [hend, trimStart_append blankFront, trimStart_cons (by decide)]
      refine relational_of_splitNegation ?_ written blankGap admits.numeral
      simp only [splitNegation, htrim, trimStart_append blankBetween]

theorem isComparison_of_relational {range : NumberRange} {operator : Operator} {n : Int}
    {text numeral : List Char} (h : relational text = ⟨operator, String.ofList numeral⟩)
    (admits : range.Admits numeral n) : IsComparison range operator n text := by
  obtain ⟨front, back, blankFront, blankBack, htext⟩ := exists_trim text
  obtain ⟨⟨negated, rest⟩, hsplit⟩ : ∃ split, splitNegation text = split := ⟨_, rfl⟩
  obtain ⟨⟨read, inner⟩, hread⟩ : ∃ split, splitInequality negated rest = split := ⟨_, rfl⟩
  simp only [relational, hsplit, hread, Argument.mk.injEq, String.ofList_inj] at h
  obtain ⟨rfl, rfl⟩ := h
  obtain ⟨mark, written, rfl⟩ := exists_isWritten hread
  obtain ⟨gap, behind, blankGap, blankBehind, hinner⟩ := exists_trim inner
  have blankEnd : isBlank (behind ++ back) = true := isBlank_append.2 ⟨blankBehind, blankBack⟩
  unfold splitNegation at hsplit
  split at hsplit
  · next negatedRest htrim =>
      obtain ⟨rfl, hmark⟩ := Prod.mk.inj hsplit
      obtain ⟨between, blankBetween, hbetween⟩ := exists_blanks_append_trimStart negatedRest
      rw [htext, htrim, hbetween, hmark, hinner]
      simp only [List.append_assoc, List.cons_append]
      exact .negated blankFront blankBetween written blankGap admits blankEnd
  · obtain ⟨rfl, hmark⟩ := Prod.mk.inj hsplit
    rw [htext, hmark, hinner]
    simp only [List.append_assoc]
    exact .plain blankFront written blankGap admits blankEnd

/-- The arguments that are read as comparisons are those of the grammar. -/
theorem isComparison_iff {range : NumberRange} {operator : Operator} {n : Int} {text : List Char} :
    IsComparison range operator n text ↔
      (relational text).operator = operator ∧
        readNumeral range (relational text).value.toList = some n := by
  constructor
  · intro h
    obtain ⟨numeral, hread, admits⟩ := relational_of_isComparison h
    rw [hread, String.toList_ofList]
    exact ⟨rfl, readNumeral_eq_some_iff.2 admits⟩
  · rintro ⟨rfl, hread⟩
    refine isComparison_of_relational ?_ (readNumeral_eq_some_iff.1 hread)
    rw [String.ofList_toList]

/-- Comparing with a text succeeds if the text is a comparison that stands. -/
theorem compareNumber_eq_true_iff {text : List Char} {range : NumberRange} {actual : Int} :
    (relational text).compareNumber range actual = .ok true ↔
      ∃ operator n, IsComparison range operator n text ∧ operator.Relates actual n := by
  simp only [isComparison_iff]
  unfold compareNumber number
  constructor
  · intro h
    split at h
    · next n hread =>
        injection h with hcompare
        exact ⟨_, n, ⟨rfl, hread⟩, compare_eq_true_iff.1 hcompare⟩
    · cases h
  · rintro ⟨operator, n, ⟨rfl, hread⟩, hrelates⟩
    rw [hread]
    exact congrArg Except.ok (compare_eq_true_iff.2 hrelates)

/-- A text says one thing only. -/
theorem IsComparison.unique {range : NumberRange} {operator other : Operator} {n m : Int}
    {text : List Char} (h : IsComparison range operator n text)
    (h' : IsComparison range other m text) : operator = other ∧ n = m := by
  obtain ⟨hoperator, hn⟩ := isComparison_iff.1 h
  obtain ⟨hother, hm⟩ := isComparison_iff.1 h'
  exact ⟨hoperator.symm.trans hother, Option.some.inj (hn.symm.trans hm)⟩

end Argument

/-! ## The seven tests -/

/-- The tests that compare numbers: `F`, `Z`, `W`, `U`, `Y`, `E` and `X`. -/
inductive NumericTest where
  | fileVersion
  | bitDepth
  | videoWidth
  | videoHeight
  | year
  | episodeNumber
  | episodeCount

namespace NumericTest

/-- The test as scripts know it. -/
def test : NumericTest → Test
  | fileVersion => .fileVersion
  | bitDepth => .bitDepth
  | videoWidth => .videoWidth
  | videoHeight => .videoHeight
  | year => .year
  | episodeNumber => .episodeNumber
  | episodeCount => .episodeCount

/-- The numbers that a test knows. -/
def range : NumericTest → Text.NumberRange
  | bitDepth => .byte
  | year => .signed
  | _ => .word

/-- The number that a test looks at. -/
def actual? (ctx : NamingContext) : NumericTest → Option Int
  | fileVersion => ctx.file.release.map fun release => release.version.toNat
  | bitDepth => (ctx.file.video.bind (·.bitDepth)).map fun depth => depth.toNat
  | videoWidth => ctx.file.video.map fun video => video.width.toNat
  | videoHeight => ctx.file.video.map fun video => video.height.toNat
  | year => some ctx.show.year
  | episodeNumber => ctx.firstEpisode?.map fun episode => episode.number.toNat
  | episodeCount => some ctx.show.normalEpisodes.toNat

end NumericTest

namespace Condition

theorem need_some {α β : Type} (what : String) (a : α) (next : α → Except ScriptError β) :
    (need what (some a) >>= next) = next a := rfl

theorem need_map {α β γ : Type} (what : String) (f : α → β) (a : Option α)
    (next : β → Except ScriptError γ) :
    (need what (a.map f) >>= next) = (need what a >>= fun x => next (f x)) := by
  cases a <;> rfl

/-- A test of a number compares the number it looks at, if there is one. -/
theorem judge_numeric (t : NumericTest) (ctx : NamingContext) :
    ∃ what, ∀ argument : String, judge ⟨t.test, argument⟩ ctx = (need what (t.actual? ctx) >>=
      (Argument.relational argument.toList).compareNumber t.range) := by
  cases t with
  | fileVersion => exact ⟨"catalog file", fun _ => (need_map _ _ _ _).symm⟩
  | bitDepth => exact ⟨"video bit depth", fun _ => (need_map _ _ _ _).symm⟩
  | videoWidth => exact ⟨"video stream", fun _ => (need_map _ _ _ _).symm⟩
  | videoHeight => exact ⟨"video stream", fun _ => (need_map _ _ _ _).symm⟩
  | year =>
      refine ⟨"year", fun argument => ?_⟩
      rw [NumericTest.actual?, need_some]
      rfl
  | episodeNumber => exact ⟨"episode", fun _ => (need_map _ _ _ _).symm⟩
  | episodeCount =>
      refine ⟨"number of episodes", fun argument => ?_⟩
      rw [NumericTest.actual?, need_some]
      rfl

theorem evaluate_eq_true_iff {condition : Condition} {ctx : NamingContext} :
    condition.evaluate ctx = true ↔ condition.judge ctx = .ok true := by
  unfold evaluate
  split
  · next answer h => rw [h, Except.ok.injEq]
  · next error h => simp [h]

/-- A test of a number holds if there is a number to look at, the argument is a comparison, and the
comparison stands. -/
theorem evaluate_numeric_iff {t : NumericTest} {ctx : NamingContext} {argument : String} :
    evaluate ⟨t.test, argument⟩ ctx = true ↔
      ∃ actual operator n, t.actual? ctx = some actual ∧
        Argument.IsComparison t.range operator n argument.toList ∧
        operator.Relates actual n := by
  obtain ⟨what, hjudge⟩ := judge_numeric t ctx
  rw [evaluate_eq_true_iff, hjudge]
  cases hactual : t.actual? ctx with
  | none => exact iff_of_false (by simp [need, bind, Except.bind]) (by simp)
  | some actual =>
      rw [need_some, Argument.compareNumber_eq_true_iff]
      simp

theorem evaluate_iff_relates {t : NumericTest} {ctx : NamingContext} {actual n : Int}
    {operator : Operator} {argument : String} (hactual : t.actual? ctx = some actual)
    (hcomparison : Argument.IsComparison t.range operator n argument.toList) :
    evaluate ⟨t.test, argument⟩ ctx = true ↔ operator.Relates actual n := by
  rw [evaluate_numeric_iff]
  constructor
  · rintro ⟨found, other, m, hfound, hother, hrelates⟩
    obtain ⟨rfl, rfl⟩ := hcomparison.unique hother
    cases hactual.symm.trans hfound
    exact hrelates
  · exact fun hrelates => ⟨actual, operator, n, hactual, hcomparison, hrelates⟩

theorem evaluate_of_no_actual {t : NumericTest} {ctx : NamingContext}
    (hnone : t.actual? ctx = none) (argument : String) :
    evaluate ⟨t.test, argument⟩ ctx = false := by
  rw [Bool.eq_false_iff, ne_eq, evaluate_numeric_iff]
  rintro ⟨actual, operator, n, hactual, -⟩
  cases hnone.symm.trans hactual

/-- A test with a number to look at compares it, and says the same in every spelling; one without is
false. A show of unknown age has a number to look at, the year 0. -/
theorem numericTest_compares (t : NumericTest) (ctx : NamingContext) :
    (∀ actual, t.actual? ctx = some actual →
      (∀ operator n (argument : String),
        Argument.IsComparison t.range operator n argument.toList →
          (evaluate ⟨t.test, argument⟩ ctx = true ↔ operator.Relates actual n)) ∧
      ∀ n (arguments : Operator → String),
        (∀ operator, Argument.IsComparison t.range operator n (arguments operator).toList) →
          Operator.IsTrichotomous fun operator =>
            evaluate ⟨t.test, arguments operator⟩ ctx = true) ∧
    (t.actual? ctx = none → ∀ argument : String, evaluate ⟨t.test, argument⟩ ctx = false) ∧
    (ctx.show.airDate = none → NumericTest.year.actual? ctx = some 0) := by
  refine ⟨fun actual hactual => ⟨?_, ?_⟩, ?_, ?_⟩
  · intro operator n argument hcomparison
    exact evaluate_iff_relates hactual hcomparison
  · intro n arguments hcomparisons
    simp only [evaluate_iff_relates hactual (hcomparisons _)]
    exact Operator.isTrichotomous_relates actual n
  · exact evaluate_of_no_actual
  · intro hundated
    rw [NumericTest.actual?, Show.year, hundated]

/-- A file of a show that started in 2013, not recognized as a release. -/
def airedContext : NamingContext :=
  { sampleContext with «show» := { id := 1, airDate := some ⟨2013, 10, 6, by decide⟩ } }

/-- A way to write each comparison with 2013. -/
def comparisonsWith2013 : Operator → String
  | .equal => "02013"
  | .notEqual => " ! +2013"
  | .greater => "!>2013"
  | .greaterOrEqual => " ! >= 2013 "
  | .less => "< 2013"
  | .lessOrEqual => "<=+002013"

theorem numericTest_compares_aired :
    NumericTest.year.actual? airedContext = some 2013 ∧
      NumericTest.fileVersion.actual? airedContext = none ∧
      NumericTest.year.actual? sampleContext = some 0 ∧
      evaluate ⟨.year, " ! >\t-007 "⟩ airedContext = true ∧
      Operator.IsTrichotomous (fun operator =>
        evaluate ⟨.year, comparisonsWith2013 operator⟩ airedContext = true) ∧
      evaluate ⟨.fileVersion, "!1"⟩ airedContext = false := by
  have hyear : NumericTest.year.actual? airedContext = some 2013 := rfl
  have hversion : NumericTest.fileVersion.actual? airedContext = none := rfl
  obtain ⟨hcompares, htrichotomous⟩ := (numericTest_compares .year airedContext).1 2013 hyear
  have hundated := (numericTest_compares .year sampleContext).2.2 rfl
  have hmissing := (numericTest_compares .fileVersion airedContext).2.1 hversion "!1"
  have hspelled : Argument.IsComparison .signed .greater (-7) " ! >\t-007 ".toList :=
    Argument.isComparison_iff.2 ⟨by decide +kernel, by decide +kernel⟩
  have hgreater : Operator.greater.Relates 2013 (-7) := by
    rw [Operator.Relates]
    decide
  have hafter := (hcompares .greater (-7) " ! >\t-007 " hspelled).2 hgreater
  refine ⟨hyear, hversion, hundated, hafter, htrichotomous 2013 comparisonsWith2013 ?_, hmissing⟩
  intro operator
  refine Argument.isComparison_iff.2 ?_
  cases operator <;> exact ⟨by decide +kernel, by decide +kernel⟩

/-- Tests of the year do not ask for an air date. -/
theorem not_false_of_undated :
    ¬ ∀ (ctx : NamingContext) (argument : String), ctx.show.airDate = none →
      evaluate ⟨.year, argument⟩ ctx = false := by
  intro h
  have hfalse := h sampleContext "0" rfl
  have htrue : evaluate ⟨.year, "0"⟩ sampleContext = true := by decide +kernel
  exact absurd htrue (by rw [hfalse]; exact Bool.false_ne_true)

end Condition

end MediaShelf
