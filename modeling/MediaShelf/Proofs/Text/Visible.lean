import MediaShelf.Proofs.Text.Numeral
import MediaShelf.Proofs.Text.Scanning
import MediaShelf.Text.CaseMap

/-!
# What makes a text visible

A text is visible if one of its characters is no white space. Cutting blanks off its ends does not
change that, and neither does writing it in small or capital letters: a character that is a blank
has no counterpart, and none that has a counterpart gets a blank for it.

The second fact is one about the tables of case mappings. They are not gone through letter by
letter. For a run of letters it is enough that none of the twenty-five blanks lies between its
ends, nor between the ends of the run of counterparts (`CaseRun.avoidsBlanks`).
-/

namespace MediaShelf.Text

theorem isVisible_iff {s : String} :
    isVisible s = true ↔ ∃ c ∈ s.toList, isBlankChar c = false := by
  simp only [isVisible, isBlank, Bool.not_eq_true', List.all_eq_false, Bool.not_eq_true]

/-- A text is visible if a part of it is. -/
theorem isVisible_of_subset {s t : String} (h : isVisible s = true) (hsub : s.toList ⊆ t.toList) :
    isVisible t = true := by
  obtain ⟨c, hc, hvisible⟩ := isVisible_iff.1 h
  exact isVisible_iff.2 ⟨c, hsub hc, hvisible⟩

theorem isVisible_append_right {t : String} (h : isVisible t = true) (s : String) :
    isVisible (s ++ t) = true := by
  refine isVisible_of_subset h ?_
  rw [String.toList_append]
  exact List.subset_append_right _ _

/-! ## Trimmed texts -/

theorem isBlank_trimStart (cs : List Char) : isBlank (trimStart cs) = isBlank cs := by
  obtain ⟨blanks, hblanks, hcs⟩ := exists_blanks_append_trimStart cs
  rw [Bool.eq_iff_iff]
  constructor
  · intro h
    rw [hcs]
    exact isBlank_append.2 ⟨hblanks, h⟩
  · intro h
    rw [hcs] at h
    exact (isBlank_append.1 h).2

theorem isBlank_reverse (cs : List Char) : isBlank cs.reverse = isBlank cs :=
  List.all_reverse

theorem isBlank_trim (cs : List Char) : isBlank (trim cs) = isBlank cs := by
  rw [trim, trimEnd_eq, isBlank_reverse, isBlank_trimStart, isBlank_reverse, isBlank_trimStart]

theorem isVisible_trimmed (s : String) : isVisible (trimmed s) = isVisible s := by
  rw [isVisible, trimmed, String.toList_ofList, isBlank_trim, isVisible]

/-! ## Numbers -/

theorem isBlankChar_of_isAsciiDigit {c : Char} (h : isAsciiDigit c = true) :
    isBlankChar c = false := by
  have hcode := toNat_of_isAsciiDigit h
  simp only [isBlankChar, Bool.or_eq_false_iff, Bool.and_eq_false_iff, decide_eq_false_iff_not,
    beq_eq_false_iff_ne]
  omega

/-- A row of digits is visible if there is one in it. -/
theorem isVisible_digits {digits : List Char} (hne : digits ≠ [])
    (h : ∀ c ∈ digits, isAsciiDigit c = true) : isVisible (String.ofList digits) = true := by
  obtain ⟨c, hc⟩ := List.exists_mem_of_ne_nil digits hne
  rw [isVisible_iff, String.toList_ofList]
  exact ⟨c, hc, isBlankChar_of_isAsciiDigit (h c hc)⟩

theorem isVisible_ofNat (n : Nat) : isVisible (ofNat n) = true :=
  isVisible_digits (natDigits_ne_nil n) fun _ hc => isAsciiDigit_of_mem_natDigits hc

theorem isVisible_ofInt (n : Int) : isVisible (ofInt n) = true := by
  cases n with
  | ofNat n => exact isVisible_ofNat n
  | negSucc n =>
      refine isVisible_of_subset (isVisible_ofNat (n + 1)) ?_
      rw [ofNat, ofInt, String.toList_ofList, String.toList_ofList]
      exact List.subset_cons_self _ _

theorem isVisible_paddedDigits (width n : Nat) :
    isVisible (String.ofList (paddedDigits width n)) = true := by
  obtain ⟨c, cs, h, -⟩ := exists_paddedDigits_eq_cons width n
  refine isVisible_digits ?_ fun _ hc => isAsciiDigit_of_mem_paddedDigits hc
  rw [h]
  exact List.cons_ne_nil _ _

/-! ## Small and capital letters -/

/-- The code points of white space. -/
def blankCodes : List Nat := [
  0x9, 0xA, 0xB, 0xC, 0xD, 0x20, 0x85, 0xA0, 0x1680, 0x2000, 0x2001, 0x2002, 0x2003, 0x2004, 0x2005,
  0x2006, 0x2007, 0x2008, 0x2009, 0x200A, 0x2028, 0x2029, 0x202F, 0x205F, 0x3000]

theorem isBlankChar_iff {c : Char} : isBlankChar c = true ↔ c.toNat ∈ blankCodes := by
  simp only [isBlankChar, blankCodes, Bool.or_eq_true, Bool.and_eq_true, decide_eq_true_eq,
    beq_iff_eq, List.mem_cons, List.not_mem_nil, or_false]
  omega

theorem isBlankChar_eq_false_iff {c : Char} : isBlankChar c = false ↔ c.toNat ∉ blankCodes := by
  rw [← isBlankChar_iff, Bool.not_eq_true]

/-- A code point that is no character is read as the null character, which is visible. -/
theorem isBlankChar_ofNat {n : Nat} (h : n ∉ blankCodes) : isBlankChar (Char.ofNat n) = false := by
  rw [isBlankChar_eq_false_iff]
  by_cases hvalid : n.isValidChar
  · have hchar : Char.ofNat n = Char.ofNatAux n hvalid := dif_pos hvalid
    rw [hchar]
    exact h
  · have hnull : Char.ofNat n = '\x00' := dif_neg hvalid
    rw [hnull]
    decide

/-- No blank lies within the ends of a run, or within those of its counterparts. -/
def CaseRun.avoidsBlanks (run : CaseRun) : Bool :=
  blankCodes.all fun n =>
    !(run.first ≤ n && n ≤ run.last) && !(run.first + run.shift ≤ n && n ≤ run.last + run.shift)

theorem CaseRun.not_blank_of_counterpart? {run : CaseRun} (h : run.avoidsBlanks = true) {n m : Nat}
    (hcounterpart : run.counterpart? n = some m) : n ∉ blankCodes ∧ m ∉ blankCodes := by
  rw [CaseRun.counterpart?] at hcounterpart
  split at hcounterpart
  · next hin =>
      simp only [Bool.and_eq_true, decide_eq_true_eq] at hin
      rw [Option.some.injEq] at hcounterpart
      simp only [avoidsBlanks, List.all_eq_true, Bool.and_eq_true, Bool.not_eq_true',
        Bool.and_eq_false_iff, decide_eq_false_iff_not] at h
      constructor
      · intro hn
        have hclear := (h n hn).1
        omega
      · intro hm
        have hclear := (h m hm).2
        -- The counterpart is no negative number that was cut off at 0, since 0 is not a blank.
        have hpos : m ≠ 0 := by
          rintro rfl
          exact absurd hm (by decide)
        omega
  · cases hcounterpart

theorem isBlankChar_counterpart {runs : List CaseRun}
    (h : runs.all CaseRun.avoidsBlanks = true) (c : Char) :
    isBlankChar (counterpart runs c) = isBlankChar c := by
  rw [counterpart]
  split
  · next n hfound =>
      obtain ⟨run, hrun, hcounterpart⟩ := List.exists_of_findSome?_eq_some hfound
      obtain ⟨hc, hn⟩ :=
        CaseRun.not_blank_of_counterpart? (List.all_eq_true.1 h run hrun) hcounterpart
      rw [isBlankChar_ofNat hn, isBlankChar_eq_false_iff.2 hc]
  · rfl

theorem avoidsBlanks_smallRuns : smallRuns.all CaseRun.avoidsBlanks = true := by
  decide +kernel

theorem avoidsBlanks_capitalRuns : capitalRuns.all CaseRun.avoidsBlanks = true := by
  decide +kernel

theorem visible_capitalExpansions :
    (capitalExpansions.all fun entry =>
      !blankCodes.contains entry.1 && !isBlank (entry.2.map Char.ofNat)) = true := by
  decide +kernel

theorem isBlank_lowerChar (c : Char) : isBlank (lowerChar c) = isBlankChar c := by
  rw [lowerChar]
  split
  · next h =>
      rw [h]
      decide
  · rw [isBlank, List.all_cons, List.all_nil, Bool.and_true]
    exact isBlankChar_counterpart avoidsBlanks_smallRuns c

theorem isBlank_upperChar (c : Char) : isBlank (upperChar c) = isBlankChar c := by
  rw [upperChar]
  split
  · next codes hfound =>
      obtain ⟨before, behind, htable, -⟩ := List.lookup_eq_some_iff.1 hfound
      have hentry := List.all_eq_true.1 visible_capitalExpansions (c.toNat, codes)
        (by rw [htable]; exact List.mem_append_right _ List.mem_cons_self)
      simp only [Bool.and_eq_true, Bool.not_eq_true', List.contains_eq_mem,
        decide_eq_false_iff_not] at hentry
      rw [hentry.2, isBlankChar_eq_false_iff.2 hentry.1]
  · rw [isBlank, List.all_cons, List.all_nil, Bool.and_true]
    exact isBlankChar_counterpart avoidsBlanks_capitalRuns c

theorem isBlank_lowerFrom (behind cs : List Char) : isBlank (lowerFrom behind cs) = isBlank cs := by
  induction cs generalizing behind with
  | nil => rfl
  | cons c rest ih =>
      have hsmall : isBlank (if c = 'Σ' then
          [if startsCased behind && !startsCased rest then 'ς' else 'σ'] else lowerChar c) =
          isBlankChar c := by
        split
        · next hsigma =>
            rw [hsigma]
            split <;> decide
        · exact isBlank_lowerChar c
      have hrest := ih (c :: behind)
      simp only [isBlank] at hsmall hrest ⊢
      rw [lowerFrom, List.all_append, List.all_cons, hsmall, hrest]

theorem isVisible_lowerText (s : String) : isVisible (lowerText s) = isVisible s := by
  rw [isVisible, lowerText, String.toList_ofList, isBlank_lowerFrom, isVisible]

theorem isVisible_upperText (s : String) : isVisible (upperText s) = isVisible s := by
  have hchars : ∀ c, (upperChar c).all isBlankChar = isBlankChar c := isBlank_upperChar
  rw [isVisible, upperText, String.toList_ofList, isBlank, List.all_flatMap]
  simp only [hchars]
  rfl

end MediaShelf.Text
