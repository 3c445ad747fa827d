import MediaShelf.Catalog.Kind
import MediaShelf.Proofs.Text.Visible
import Mathlib.Data.List.Find
import Mathlib.Tactic.Conv

/-!
# Spellings that are read alike

Case and separators carry no meaning in the spelling of a kind. So two texts that differ in nothing
else (`SameWord`) should be read as one kind, or both as none (`ReadAlike`). When they are is said
exactly by `kinds_readAlike_iff`.

What can go wrong is that the blanks are trimmed off a spelling before the separators are taken out
of it, and the two do not commute. In a hyphen, a tab and the word `other`, the hyphen keeps the tab
from being trimmed (`ShieldsBlank`), and no accepted word has a tab in it. Any other text comes to
the same as its `bareWord`, which is made in the opposite order and so depends only on what is left
without the separators. Spaces do no harm, because they are separators themselves.

In between, the letters are made small. Only a sigma looks at its neighbours for that, and no
accepted word has one, so the letters can be taken one by one (`letters`). Then it does not matter
that separators stood between them.
-/

namespace MediaShelf

namespace Text

/-! ## Small letters -/

theorem isBlankChar_toLower (c : Char) : isBlankChar c.toLower = isBlankChar c :=
  apply_toLower (by decide) c

theorem lowerChar_toLower (c : Char) : lowerChar c.toLower = lowerChar c :=
  apply_toLower (by decide +kernel) c

theorem lowerChar_of_isBlankChar {c : Char} (h : isBlankChar c = true) : lowerChar c = [c] := by
  have hcodes : ∀ n ∈ blankCodes, lowerChar (Char.ofNat n) = [Char.ofNat n] := by decide +kernel
  have hc := hcodes c.toNat (isBlankChar_iff.1 h)
  rwa [Char.ofNat_toNat] at hc

theorem lowerFrom_eq_flatMap {cs : List Char} (h : 'Σ' ∉ cs) (behind : List Char) :
    lowerFrom behind cs = cs.flatMap lowerChar := by
  induction cs generalizing behind with
  | nil => rfl
  | cons c rest ih =>
      rw [List.mem_cons, not_or] at h
      rw [lowerFrom, if_neg (Ne.symm h.1), ih h.2, List.flatMap_cons]

/-- The small forms of a sigma. -/
def smallSigmas : List Char := ['σ', 'ς']

theorem exists_sigma_mem_lowerFrom {cs : List Char} (h : 'Σ' ∈ cs) (behind : List Char) :
    ∃ sigma ∈ smallSigmas, sigma ∈ lowerFrom behind cs := by
  induction cs generalizing behind with
  | nil => cases h
  | cons c rest ih =>
      rw [lowerFrom]
      cases h with
      | head =>
          rw [if_pos rfl]
          split
          · exact ⟨'ς', by decide, List.mem_cons_self⟩
          · exact ⟨'σ', by decide, List.mem_cons_self⟩
      | tail _ h =>
          obtain ⟨sigma, hsigma, hmem⟩ := ih h (c :: behind)
          exact ⟨sigma, hsigma, List.mem_append_right _ hmem⟩

end Text

open Text

/-! ## Separators -/

/-- A text without the separators in it. -/
def withoutSeparators (cs : List Char) : List Char :=
  cs.filter fun c => !isSeparator c

theorem withoutSeparators_append (a b : List Char) :
    withoutSeparators (a ++ b) = withoutSeparators a ++ withoutSeparators b :=
  List.filter_append a b

theorem withoutSeparators_cons {c : Char} (h : isSeparator c = true) (cs : List Char) :
    withoutSeparators (c :: cs) = withoutSeparators cs :=
  List.filter_cons_of_neg (by simp [h])

theorem withoutSeparators_cons_of_not {c : Char} (h : isSeparator c = false) (cs : List Char) :
    withoutSeparators (c :: cs) = c :: withoutSeparators cs :=
  List.filter_cons_of_pos (by simp [h])

theorem mem_withoutSeparators_iff {c : Char} {cs : List Char} :
    c ∈ withoutSeparators cs ↔ c ∈ cs ∧ isSeparator c = false := by
  rw [withoutSeparators, List.mem_filter, Bool.not_eq_true']

theorem isBlank_withoutSeparators {cs : List Char} (h : isBlank cs = true) :
    isBlank (withoutSeparators cs) = true :=
  List.all_eq_true.2 fun c hc => List.all_eq_true.1 h c (mem_withoutSeparators_iff.1 hc).1

theorem lowerChar_of_isSeparator {c : Char} (h : isSeparator c = true) : lowerChar c = [c] := by
  simp only [isSeparator, Bool.or_eq_true, beq_iff_eq] at h
  rcases h with ((rfl | rfl) | rfl) | rfl <;> decide +kernel

/-- It makes no difference to have trimmed once already. -/
theorem trim_withoutSeparators_trim (cs : List Char) :
    trim (withoutSeparators (trim cs)) = trim (withoutSeparators cs) := by
  obtain ⟨front, back, hfront, hback, hcs⟩ := exists_trim cs
  conv_rhs => rw [hcs]
  rw [withoutSeparators_append, withoutSeparators_append,
    trim_append_append (isBlank_withoutSeparators hfront) (isBlank_withoutSeparators hback)]

/-- In the trimmed text, nothing but separators stands between a blank and one of the ends. The
blank is no space, so it is still there when the separators are gone. -/
def ShieldsBlank (s : String) : Prop :=
  ∃ front c back, trim s.toList = front ++ c :: back ∧
    isBlankChar c = true ∧ isSeparator c = false ∧
    (withoutSeparators front = [] ∨ withoutSeparators back = [])

theorem shieldsBlank_iff {s : String} :
    ShieldsBlank s ↔
      trim (withoutSeparators (trim s.toList)) ≠ withoutSeparators (trim s.toList) := by
  rw [trim_ne_self_iff]
  constructor
  · rintro ⟨front, c, back, hsplit, hblank, hkept, hend⟩
    refine ⟨withoutSeparators front, c, withoutSeparators back, ?_, hblank, hend⟩
    rw [hsplit, withoutSeparators_append, withoutSeparators_cons_of_not hkept]
  · rintro ⟨front, c, back, hsplit, hblank, hend⟩
    obtain ⟨before, rest, hs, hbefore, hrest⟩ := List.filter_eq_append_iff.1 hsplit
    obtain ⟨separators, behind, rfl, hnone, hkept, hbehind⟩ := List.filter_eq_cons_iff.1 hrest
    have hseparators : withoutSeparators separators = [] := List.filter_eq_nil_iff.2 hnone
    refine ⟨before ++ separators, c, behind, ?_, hblank, by simpa using hkept, ?_⟩
    · rw [hs, List.append_assoc]
    · rw [withoutSeparators_append, hseparators, List.append_nil]
      exact hend.imp hbefore.trans hbehind.trans

instance (s : String) : Decidable (ShieldsBlank s) :=
  decidable_of_iff' _ shieldsBlank_iff

/-! ## The word in a spelling -/

/-- The word in a spelling: without the separators first, and without the blanks around it then. -/
def bareWord (s : String) : String :=
  String.ofList (trim (withoutSeparators s.toList))

/-- The letters of a text, each made small on its own, without the separators. -/
def letters (cs : List Char) : List Char :=
  withoutSeparators (cs.flatMap lowerChar)

theorem letters_cons (c : Char) (cs : List Char) :
    letters (c :: cs) = withoutSeparators (lowerChar c) ++ letters cs := by
  rw [letters, List.flatMap_cons, withoutSeparators_append, letters]

theorem letters_withoutSeparators (cs : List Char) :
    letters (withoutSeparators cs) = letters cs := by
  induction cs with
  | nil => rfl
  | cons c rest ih =>
      cases hc : isSeparator c with
      | true =>
          rw [withoutSeparators_cons hc, letters_cons, lowerChar_of_isSeparator hc,
            withoutSeparators_cons hc, ih]
          rfl
      | false => rw [withoutSeparators_cons_of_not hc, letters_cons, letters_cons, ih]

theorem letters_map_toLower (cs : List Char) : letters (cs.map Char.toLower) = letters cs := by
  simp only [letters, List.flatMap_map, lowerChar_toLower]

/-- A word has no blank in it, and no letter that depends on its neighbours. -/
def isPlainWord (word : List Char) : Bool :=
  word.all fun c => !isBlankChar c && !smallSigmas.contains c

section

variable {word : List Char} (hplain : isPlainWord word = true)

include hplain

theorem of_mem_plainWord {c : Char} (hc : c ∈ word) :
    isBlankChar c = false ∧ c ∉ smallSigmas := by
  simpa using List.all_eq_true.1 hplain c hc

theorem reducedSpelling_eq_iff {s : String} :
    reducedSpelling s = word ↔ letters (trim s.toList) = word := by
  by_cases hsigma : 'Σ' ∈ trim s.toList
  · -- A sigma stays one whatever its form, so neither side can be the word.
    have hkept : ∀ sigma ∈ smallSigmas, isSeparator sigma = false := by
      simp [smallSigmas, isSeparator]
    refine iff_of_false ?_ ?_
    · rintro rfl
      obtain ⟨sigma, hsigma, hmem⟩ := exists_sigma_mem_lowerFrom hsigma []
      have hleft := mem_withoutSeparators_iff.2 ⟨hmem, hkept sigma hsigma⟩
      exact (of_mem_plainWord hplain hleft).2 hsigma
    · rintro rfl
      have hsmall : lowerChar 'Σ' = ['σ'] := by decide +kernel
      have hmem : 'σ' ∈ (trim s.toList).flatMap lowerChar :=
        List.mem_flatMap.2 ⟨'Σ', hsigma, by rw [hsmall]; exact List.mem_singleton_self 'σ'⟩
      have hleft := mem_withoutSeparators_iff.2 ⟨hmem, hkept 'σ' (by decide)⟩
      exact (of_mem_plainWord hplain hleft).2 (by decide)
  · rw [reducedSpelling, lowerFrom_eq_flatMap hsigma]
    rfl

theorem letters_ne_of_blank {cs : List Char} {c : Char} (hc : c ∈ cs)
    (hblank : isBlankChar c = true) (hkept : isSeparator c = false) : letters cs ≠ word := by
  rintro rfl
  have hmem : c ∈ cs.flatMap lowerChar := by
    refine List.mem_flatMap.2 ⟨c, hc, ?_⟩
    rw [lowerChar_of_isBlankChar hblank]
    exact List.mem_singleton_self c
  have hfree := (of_mem_plainWord hplain (mem_withoutSeparators_iff.2 ⟨hmem, hkept⟩)).1
  rw [hblank] at hfree
  cases hfree

/-- A spelling is reduced to what the word in it is reduced to, unless it shields a blank. -/
theorem reducedSpelling_eq_iff_bareWord {s : String} :
    reducedSpelling s = word ↔ ¬ ShieldsBlank s ∧ reducedSpelling (bareWord s) = word := by
  rw [reducedSpelling_eq_iff hplain, reducedSpelling_eq_iff hplain, bareWord,
    String.toList_ofList, trim_trim]
  by_cases hshields : ShieldsBlank s
  · refine iff_of_false ?_ fun h => h.1 hshields
    obtain ⟨front, c, back, hsplit, hblank, hkept, -⟩ := hshields
    refine letters_ne_of_blank hplain ?_ hblank hkept
    rw [hsplit]
    exact List.mem_append_right _ List.mem_cons_self
  · rw [and_iff_right hshields, ← trim_withoutSeparators_trim,
      not_not.1 (mt shieldsBlank_iff.2 hshields), letters_withoutSeparators]

end

/-- Two texts differ in separators and the case of ASCII letters only. -/
def SameWord (s t : String) : Prop :=
  (withoutSeparators s.toList).map Char.toLower = (withoutSeparators t.toList).map Char.toLower

instance (s t : String) : Decidable (SameWord s t) :=
  inferInstanceAs (Decidable (_ = _))

theorem SameWord.letters_eq {s t : String} (h : SameWord s t) :
    letters (trim (withoutSeparators s.toList)) = letters (trim (withoutSeparators t.toList)) := by
  rw [← letters_map_toLower, ← trim_map isBlankChar_toLower, h, trim_map isBlankChar_toLower,
    letters_map_toLower]

theorem SameWord.reducedSpelling_iff {s t : String} (h : SameWord s t) {word : List Char}
    (hplain : isPlainWord word = true) :
    reducedSpelling (bareWord s) = word ↔ reducedSpelling (bareWord t) = word := by
  rw [reducedSpelling_eq_iff hplain, reducedSpelling_eq_iff hplain, bareWord, bareWord,
    String.toList_ofList, String.toList_ofList, trim_trim, trim_trim, h.letters_eq]

/-! ## Readers of kinds -/

section

variable {α : Type} {field : String} {words : List (String × α)} {s t : String}

theorem readSpelling_eq_ok_iff {kind : α} :
    readSpelling field words s = .ok kind ↔
      (words.find? fun word => word.1.toList == reducedSpelling s).map (·.2) = some kind := by
  rw [readSpelling]
  cases words.find? fun word => word.1.toList == reducedSpelling s <;> simp

theorem readSpelling_congr
    (h : ∀ word ∈ words, reducedSpelling s = word.1.toList ↔ reducedSpelling t = word.1.toList)
    (kind : α) : readSpelling field words s = .ok kind ↔ readSpelling field words t = .ok kind := by
  have hfind : (words.find? fun word => word.1.toList == reducedSpelling s) =
      words.find? fun word => word.1.toList == reducedSpelling t := by
    refine List.find?_congr fun word hword => ?_
    rw [Bool.eq_iff_iff, beq_iff_eq, beq_iff_eq, eq_comm, h word hword, eq_comm]
  rw [readSpelling_eq_ok_iff, readSpelling_eq_ok_iff, hfind]

theorem readSpelling_ne_ok (h : ∀ word ∈ words, reducedSpelling s ≠ word.1.toList) (kind : α) :
    readSpelling field words s ≠ .ok kind := by
  have hnone : (words.find? fun word => word.1.toList == reducedSpelling s) = none :=
    List.find?_eq_none.2 fun word hword hfound => h word hword (beq_iff_eq.1 hfound).symm
  rw [Ne, readSpelling_eq_ok_iff, hnone]
  exact (Option.some_ne_none kind).symm

/-- A text is read as the word in it is, unless it shields a blank. -/
theorem readSpelling_eq_ok_iff_bareWord
    (hwords : ∀ word ∈ words, isPlainWord word.1.toList = true) (kind : α) :
    readSpelling field words s = .ok kind ↔
      ¬ ShieldsBlank s ∧ readSpelling field words (bareWord s) = .ok kind := by
  by_cases hshields : ShieldsBlank s
  · refine iff_of_false (readSpelling_ne_ok (fun word hword heq => ?_) kind) fun h => h.1 hshields
    exact ((reducedSpelling_eq_iff_bareWord (hwords word hword)).1 heq).1 hshields
  · rw [and_iff_right hshields]
    refine readSpelling_congr (fun word hword => ?_) kind
    rw [reducedSpelling_eq_iff_bareWord (hwords word hword), and_iff_right hshields]

/-- Two texts are read as one kind, or neither of them as any. -/
def ReadAlike (read : String → Except SpellingError α) (s t : String) : Prop :=
  ∀ kind, read s = .ok kind ↔ read t = .ok kind

theorem SameWord.readAlike_iff (h : SameWord s t)
    (hwords : ∀ word ∈ words, isPlainWord word.1.toList = true) :
    ReadAlike (readSpelling field words) s t ↔ ((ShieldsBlank s ↔ ShieldsBlank t) ∨
      ∀ kind, readSpelling field words (bareWord s) ≠ .ok kind) := by
  have hread : ∀ u kind, readSpelling field words u = .ok kind ↔
      ¬ ShieldsBlank u ∧ readSpelling field words (bareWord u) = .ok kind :=
    fun _ => readSpelling_eq_ok_iff_bareWord hwords
  have hbare : ∀ kind, readSpelling field words (bareWord s) = .ok kind ↔
      readSpelling field words (bareWord t) = .ok kind :=
    readSpelling_congr fun word hword => h.reducedSpelling_iff (hwords word hword)
  -- Both texts have the same bare word, so only what they shield is left to differ in.
  simp only [ReadAlike, hread s, hread t, ← hbare]
  by_cases hs : ShieldsBlank s <;> by_cases ht : ShieldsBlank t <;> simp [hs, ht]

end

theorem Source.isPlainWord_of_mem_words : ∀ word ∈ words, isPlainWord word.1.toList = true :=
  List.all_eq_true.1 (by decide +kernel)

theorem ShowKind.isPlainWord_of_mem_words : ∀ word ∈ words, isPlainWord word.1.toList = true :=
  List.all_eq_true.1 (by decide +kernel)

theorem EpisodeKind.isPlainWord_of_mem_words : ∀ word ∈ words, isPlainWord word.1.toList = true :=
  List.all_eq_true.1 (by decide +kernel)

/-- Texts that differ in separators and case only are read alike exactly if both of them shield a
blank, or neither does, or the word in them names no kind. -/
theorem kinds_readAlike_iff {s t : String} (h : SameWord s t) :
    (ReadAlike Source.read s t ↔
      ((ShieldsBlank s ↔ ShieldsBlank t) ∨ ∀ kind, Source.read (bareWord s) ≠ .ok kind)) ∧
    (ReadAlike ShowKind.read s t ↔
      ((ShieldsBlank s ↔ ShieldsBlank t) ∨ ∀ kind, ShowKind.read (bareWord s) ≠ .ok kind)) ∧
    (ReadAlike EpisodeKind.read s t ↔
      ((ShieldsBlank s ↔ ShieldsBlank t) ∨ ∀ kind, EpisodeKind.read (bareWord s) ≠ .ok kind)) :=
  ⟨h.readAlike_iff Source.isPlainWord_of_mem_words,
    h.readAlike_iff ShowKind.isPlainWord_of_mem_words,
    h.readAlike_iff EpisodeKind.isPlainWord_of_mem_words⟩

/-- The tabs and line feeds on the ends are trimmed, since no separator stands outside of them. -/
theorem kinds_readAlike_iff_tabs :
    SameWord "\tSpecial\n" "\tSPE-ci_al/\n" ∧
      ¬ ShieldsBlank "\tSpecial\n" ∧ ¬ ShieldsBlank "\tSPE-ci_al/\n" ∧
      ReadAlike Source.read "\tSpecial\n" "\tSPE-ci_al/\n" ∧
      ReadAlike ShowKind.read "\tSpecial\n" "\tSPE-ci_al/\n" ∧
      ReadAlike EpisodeKind.read "\tSpecial\n" "\tSPE-ci_al/\n" := by
  have hsame : SameWord "\tSpecial\n" "\tSPE-ci_al/\n" := by decide +kernel
  have hs : ¬ ShieldsBlank "\tSpecial\n" := by decide +kernel
  have ht : ¬ ShieldsBlank "\tSPE-ci_al/\n" := by decide +kernel
  obtain ⟨hsource, hshow, hepisode⟩ := kinds_readAlike_iff hsame
  have halike : ShieldsBlank "\tSpecial\n" ↔ ShieldsBlank "\tSPE-ci_al/\n" := iff_of_false hs ht
  exact ⟨hsame, hs, ht, hsource.2 (Or.inl halike), hshow.2 (Or.inl halike),
    hepisode.2 (Or.inl halike)⟩

/-- A hyphen in front of a tab makes a word unreadable that is one for all three readers. -/
theorem not_readAlike_shieldedTab :
    SameWord "\tother" "-\tother" ∧
      (Source.read "\tother" = .ok .other ∧
        Source.read "-\tother" = .error ⟨"source", "-\tother"⟩) ∧
      (ShowKind.read "\tother" = .ok .other ∧
        ShowKind.read "-\tother" = .error ⟨"show kind", "-\tother"⟩) ∧
      (EpisodeKind.read "\tother" = .ok .other ∧
        EpisodeKind.read "-\tother" = .error ⟨"episode kind", "-\tother"⟩) ∧
      ¬ ∀ s t, SameWord s t → ReadAlike Source.read s t ∧ ReadAlike ShowKind.read s t ∧
        ReadAlike EpisodeKind.read s t := by
  have hsame : SameWord "\tother" "-\tother" := by decide +kernel
  have hread : Source.read "\tother" = .ok .other := rfl
  have hfails : Source.read "-\tother" = .error ⟨"source", "-\tother"⟩ := rfl
  refine ⟨hsame, ⟨hread, hfails⟩, ⟨rfl, rfl⟩, ⟨rfl, rfl⟩, fun halike => ?_⟩
  have hother := ((halike _ _ hsame).1 .other).1 hread
  rw [hfails] at hother
  cases hother

end MediaShelf
