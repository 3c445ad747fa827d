import MediaShelf.Text.Ascii
import MediaShelf.Text.Blank
import MediaShelf.Text.Search

/-!
# Reading off the front of a text

The readers of the script language take something off the front of a text and give back what
follows. Each of them is described twice here: it reads what it should from a text that starts with
it, and whatever it reads was there. `IsBefore` does the same for the part of a text in front of a
pattern, which is how comments are cut off.
-/

namespace MediaShelf.Text

/-! ## Blanks -/

theorem isBlank_append {a b : List Char} :
    isBlank (a ++ b) = true ↔ isBlank a = true ∧ isBlank b = true := by
  rw [isBlank, List.all_append, Bool.and_eq_true]
  rfl

theorem trimStart_append {blanks : List Char} (h : isBlank blanks = true) (rest : List Char) :
    trimStart (blanks ++ rest) = trimStart rest :=
  List.dropWhile_append_of_pos (List.all_eq_true.1 h)

theorem trimStart_cons {c : Char} (h : isBlankChar c = false) (rest : List Char) :
    trimStart (c :: rest) = c :: rest :=
  List.dropWhile_cons_of_neg (by rw [h]; exact Bool.false_ne_true)

theorem exists_blanks_append_trimStart (cs : List Char) :
    ∃ blanks, isBlank blanks = true ∧ cs = blanks ++ trimStart cs :=
  ⟨cs.takeWhile isBlankChar, List.all_takeWhile, List.takeWhile_append_dropWhile.symm⟩

theorem eq_append_of_dropWhile_eq_cons {p : Char → Bool} {cs rest : List Char} {c : Char}
    (h : cs.dropWhile p = c :: rest) : p c = false ∧ cs = cs.takeWhile p ++ c :: rest := by
  refine ⟨?_, by rw [← h, List.takeWhile_append_dropWhile]⟩
  have hhead := List.head?_dropWhile_not p cs
  rw [h] at hhead
  exact hhead

theorem not_blank_of_trimStart_eq_cons {cs rest : List Char} {c : Char}
    (h : trimStart cs = c :: rest) : isBlankChar c = false :=
  (eq_append_of_dropWhile_eq_cons h).1

theorem trimStart_trimStart (cs : List Char) : trimStart (trimStart cs) = trimStart cs := by
  cases h : trimStart cs with
  | nil => rfl
  | cons c rest => exact trimStart_cons (not_blank_of_trimStart_eq_cons h) rest

theorem trimEnd_eq (cs : List Char) : trimEnd cs = (trimStart cs.reverse).reverse := rfl

theorem trimStart_append_cons {c : Char} (h : isBlankChar c = false) (front rest : List Char) :
    trimStart (front ++ c :: rest) = trimStart front ++ c :: rest := by
  rw [trimStart, List.dropWhile_append]
  split
  · next hempty =>
      rw [trimStart, List.isEmpty_iff.1 hempty, List.nil_append]
      exact trimStart_cons h rest
  · rfl

theorem trimEnd_append_cons {c : Char} (h : isBlankChar c = false) (front rest : List Char) :
    trimEnd (front ++ c :: rest) = front ++ c :: trimEnd rest := by
  have hreverse : (front ++ c :: rest).reverse = rest.reverse ++ c :: front.reverse := by simp
  rw [trimEnd_eq, hreverse, trimStart_append_cons h, trimEnd_eq, List.reverse_append,
    List.reverse_cons, List.reverse_reverse, List.append_assoc, List.singleton_append]

theorem trimEnd_concat {c : Char} (h : isBlankChar c = false) (front : List Char) :
    trimEnd (front ++ [c]) = front ++ [c] :=
  trimEnd_append_cons h front []

theorem trimEnd_append {blanks : List Char} (h : isBlank blanks = true) (cs : List Char) :
    trimEnd (cs ++ blanks) = trimEnd cs := by
  have hreverse : isBlank blanks.reverse = true := (List.all_reverse).trans h
  rw [trimEnd_eq, List.reverse_append, trimStart_append hreverse, trimEnd_eq]

/-- It does not matter which end of a text is trimmed first. -/
theorem trimStart_trimEnd (cs : List Char) : trimStart (trimEnd cs) = trim cs := by
  obtain ⟨blanks, hblanks, hcs⟩ := exists_blanks_append_trimStart cs
  rw [trim]
  cases hstart : trimStart cs with
  | nil =>
      rw [hstart, List.append_nil] at hcs
      rw [hcs, ← List.nil_append blanks, trimEnd_append hblanks]
      rfl
  | cons c rest =>
      have hc := not_blank_of_trimStart_eq_cons hstart
      rw [hcs, hstart, trimEnd_append_cons hc, trimStart_append hblanks, trimStart_cons hc]
      exact (trimEnd_append_cons hc [] rest).symm

/-- The last character that is not blank stays. -/
theorem trim_append_cons {d : Char} (hd : isBlankChar d = false) {blanks : List Char}
    (h : isBlank blanks = true) (front : List Char) :
    trim (front ++ d :: blanks) = trimStart front ++ [d] := by
  rw [trim, trimStart_append_cons hd, List.append_cons, trimEnd_append h, trimEnd_concat hd]

theorem exists_trim (cs : List Char) :
    ∃ front back, isBlank front = true ∧ isBlank back = true ∧ cs = front ++ (trim cs ++ back) := by
  obtain ⟨front, hfront, hcs⟩ := exists_blanks_append_trimStart cs
  obtain ⟨back, hback, hreverse⟩ := exists_blanks_append_trimStart (trimStart cs).reverse
  refine ⟨front, back.reverse, hfront, (List.all_reverse).trans hback, ?_⟩
  rw [trim, trimEnd_eq, ← List.reverse_append, ← hreverse, List.reverse_reverse]
  exact hcs

theorem trim_eq_self {c d : Char} (hc : isBlankChar c = false) (hd : isBlankChar d = false)
    (middle : List Char) : trim (c :: (middle ++ [d])) = c :: (middle ++ [d]) := by
  rw [trim, trimStart_cons hc, ← List.cons_append, trimEnd_concat hd]

theorem trim_trim (cs : List Char) : trim (trim cs) = trim cs := by
  have hstart : trimStart (trim cs) = trim cs := by
    rw [trim, trimStart_trimEnd, trim, trimStart_trimStart]
  have hend : trimEnd (trim cs) = trim cs := by
    rw [trim, trimEnd_eq, trimEnd_eq, List.reverse_reverse, trimStart_trimStart]
  rw [trim, hstart, hend]

theorem trim_append_append {front back : List Char} (hfront : isBlank front = true)
    (hback : isBlank back = true) (cs : List Char) : trim (front ++ (cs ++ back)) = trim cs := by
  rw [trim, trimStart_append hfront, ← trim, ← trimStart_trimEnd, trimEnd_append hback,
    trimStart_trimEnd]

theorem length_trim_le (cs : List Char) : (trim cs).length ≤ cs.length := by
  obtain ⟨front, back, -, -, hcs⟩ := exists_trim cs
  have hlength := congrArg List.length hcs
  simp only [List.length_append] at hlength
  omega

/-- Trimming changes a text if there is a blank at one of its ends. -/
theorem trim_ne_self_iff {cs : List Char} :
    trim cs ≠ cs ↔ ∃ front c back, cs = front ++ c :: back ∧ isBlankChar c = true ∧
      (front = [] ∨ back = []) := by
  constructor
  · intro hne
    obtain ⟨front, back, hfront, hback, hcs⟩ := exists_trim cs
    cases front with
    | cons c front =>
        exact ⟨[], c, _, hcs, List.all_eq_true.1 hfront c List.mem_cons_self, Or.inl rfl⟩
    | nil =>
        rcases List.eq_nil_or_concat back with rfl | ⟨back, c, rfl⟩
        · rw [List.nil_append, List.append_nil] at hcs
          exact absurd hcs.symm hne
        · rw [List.nil_append, List.concat_eq_append, ← List.append_assoc] at hcs
          exact ⟨_, c, [], hcs, List.all_eq_true.1 hback c (by simp), Or.inr rfl⟩
  · rintro ⟨front, c, back, rfl, hc, hend⟩ htrim
    have hblank : isBlank [c] = true := List.all_eq_true.2 (by simpa using hc)
    rcases hend with rfl | rfl
    · have hdropped : trim (c :: back) = trim back :=
        congrArg trimEnd (trimStart_append hblank back)
      have hshorter := length_trim_le back
      rw [← hdropped, ← List.nil_append (c :: back), htrim, List.nil_append,
        List.length_cons] at hshorter
      omega
    · have hdropped : trim (front ++ [c]) = trim front := by
        rw [← trimStart_trimEnd, trimEnd_append hblank, trimStart_trimEnd]
      have hshorter := length_trim_le front
      rw [← hdropped, htrim, List.length_append, List.length_singleton] at hshorter
      omega

/-- A change of characters that neither makes nor unmakes blanks may come before or after. -/
theorem trim_map {f : Char → Char} (h : ∀ c, isBlankChar (f c) = isBlankChar c)
    (cs : List Char) : trim (cs.map f) = (trim cs).map f := by
  have hstart : ∀ cs : List Char, trimStart (cs.map f) = (trimStart cs).map f := fun cs => by
    rw [trimStart, List.dropWhile_map, show isBlankChar ∘ f = isBlankChar from funext h, trimStart]
  rw [trim, trim, trimEnd_eq, trimEnd_eq, hstart, ← List.map_reverse, hstart, List.map_reverse]

/-! ## Up to a mark -/

theorem bne_of_not_mem {mark : Char} {cs : List Char} (h : mark ∉ cs) :
    ∀ c ∈ cs, (c != mark) = true := by
  intro c hc
  rw [bne_iff_ne]
  rintro rfl
  exact h hc

theorem not_mem_takeWhile (mark : Char) (cs : List Char) : mark ∉ cs.takeWhile (· != mark) := by
  intro hmem
  have hne := List.all_eq_true.1 List.all_takeWhile _ hmem
  simp at hne

theorem takeWhile_append_mark {mark : Char} {front : List Char} (h : mark ∉ front)
    (rest : List Char) : (front ++ mark :: rest).takeWhile (· != mark) = front := by
  rw [List.takeWhile_append_of_pos (bne_of_not_mem h)]
  simp

theorem dropWhile_append_mark {mark : Char} {front : List Char} (h : mark ∉ front)
    (rest : List Char) : (front ++ mark :: rest).dropWhile (· != mark) = mark :: rest := by
  rw [List.dropWhile_append_of_pos (bne_of_not_mem h)]
  simp

/-! ## Words in any case -/

/-! Only the letters have two cases, and they lie 32 apart. -/

theorem toUpper_eq_self {c : Char} (h : ¬ (97 ≤ c.toNat ∧ c.toNat ≤ 122)) : c.toUpper = c :=
  dif_neg h

theorem toLower_eq_self {c : Char} (h : ¬ (65 ≤ c.toNat ∧ c.toNat ≤ 90)) : c.toLower = c :=
  dif_neg h

theorem toNat_toUpper {c : Char} (h : 97 ≤ c.toNat ∧ c.toNat ≤ 122) :
    c.toUpper.toNat = c.toNat - 32 := by
  have hrange : 'a'.val ≤ c.val ∧ c.val ≤ 'z'.val := h
  have hupper : c.toUpper = _ := dif_pos hrange
  rw [hupper, Char.toNat, UInt32.toNat_add]
  show (c.toNat + 4294967264) % 4294967296 = c.toNat - 32
  omega

theorem toNat_toLower {c : Char} (h : 65 ≤ c.toNat ∧ c.toNat ≤ 90) :
    c.toLower.toNat = c.toNat + 32 := by
  have hrange : 'A'.val ≤ c.val ∧ c.val ≤ 'Z'.val := h
  have hlower : c.toLower = _ := dif_pos hrange
  rw [hlower, Char.toNat, UInt32.toNat_add]
  show (c.toNat + 32) % 4294967296 = c.toNat + 32
  omega

theorem eq_or_eq_toLower_of_toUpper {c d : Char} (h : c.toUpper = d) :
    c = d ∨ c = d.toLower := by
  subst h
  by_cases hlower : 97 ≤ c.toNat ∧ c.toNat ≤ 122
  · right
    have hupper : c.toUpper.toNat = c.toNat - 32 := toNat_toUpper hlower
    rw [← Char.toNat_inj, toNat_toLower (by omega), hupper]
    omega
  · exact Or.inl (toUpper_eq_self hlower).symm

theorem eq_or_eq_toUpper_of_toLower {c d : Char} (h : c.toLower = d) :
    c = d ∨ c = d.toUpper := by
  subst h
  by_cases hupper : 65 ≤ c.toNat ∧ c.toNat ≤ 90
  · right
    have hlower : c.toLower.toNat = c.toNat + 32 := toNat_toLower hupper
    rw [← Char.toNat_inj, toNat_toUpper (by omega), hlower]
    omega
  · exact Or.inl (toLower_eq_self hupper).symm

/-- What comes to the same for both forms of each of the 26 letters does not depend on case. -/
theorem apply_toLower {β : Type} {f : Char → β}
    (h : ∀ n < 26, f (Char.ofNat (65 + n)).toLower = f (Char.ofNat (65 + n))) (c : Char) :
    f c.toLower = f c := by
  by_cases hupper : 65 ≤ c.toNat ∧ c.toNat ≤ 90
  · have hletter := h (c.toNat - 65) (by omega)
    rwa [Nat.add_sub_cancel' hupper.1, Char.ofNat_toNat] at hletter
  · rw [toLower_eq_self hupper]

/-- A text is the word up to the case of ASCII letters. -/
def Spells (word text : List Char) : Prop :=
  text.map Char.toLower = word.map Char.toLower

theorem Spells.eq_pair {a b : Char} {text : List Char} (h : Spells [a, b] text) :
    ∃ c d, text = [c, d] ∧ (c = a.toLower ∨ c = a.toLower.toUpper) ∧
      (d = b.toLower ∨ d = b.toLower.toUpper) := by
  unfold Spells at h
  match text with
  | [c, d] =>
      simp only [List.map_cons, List.map_nil, List.cons.injEq, and_true] at h
      exact ⟨c, d, rfl, eq_or_eq_toUpper_of_toLower h.1, eq_or_eq_toUpper_of_toLower h.2⟩
  | [] => simp at h
  | [_] => simp at h
  | _ :: _ :: _ :: _ => simp at h

theorem dropWord_append {word text : List Char} (h : Spells word text) (rest : List Char) :
    dropWord word (text ++ rest) = some rest := by
  unfold Spells at h
  induction word generalizing text with
  | nil =>
      rw [List.map_nil, List.map_eq_nil_iff] at h
      rw [h, List.nil_append, dropWord]
  | cons w ws ih =>
      cases text with
      | nil => simp at h
      | cons c cs =>
          simp only [List.map_cons, List.cons.injEq] at h
          rw [List.cons_append, dropWord, if_pos (by simp [sameLetter, h.1])]
          exact ih h.2

theorem exists_spells_of_dropWord {word cs rest : List Char} (h : dropWord word cs = some rest) :
    ∃ text, Spells word text ∧ cs = text ++ rest := by
  induction word generalizing cs with
  | nil =>
      rw [dropWord, Option.some.injEq] at h
      exact ⟨[], rfl, h⟩
  | cons w ws ih =>
      cases cs with
      | nil => cases h
      | cons c cs =>
          rw [dropWord] at h
          split at h
          · next hsame =>
              obtain ⟨text, hspells, rfl⟩ := ih h
              refine ⟨c :: text, ?_, rfl⟩
              rw [Spells, List.map_cons, List.map_cons, hspells, beq_iff_eq.1 hsame]
          · cases h

/-! ## Patterns -/

theorem after?_eq_some_iff {pattern cs rest : List Char} :
    after? pattern cs = some rest ↔ cs = pattern ++ rest := by
  induction pattern generalizing cs with
  | nil => rw [after?, Option.some.injEq, List.nil_append]
  | cons p ps ih =>
      cases cs with
      | nil => simp [after?]
      | cons c cs =>
          rw [after?, List.cons_append, List.cons.injEq]
          split
          · next heq => rw [ih, and_iff_right heq.symm]
          · next hne => exact iff_of_false (by simp) fun h => hne h.1.symm

theorem isSome_after?_iff {pattern cs : List Char} :
    (after? pattern cs).isSome = true ↔ pattern <+: cs := by
  rw [Option.isSome_iff_exists]
  simp only [after?_eq_some_iff]
  exact exists_congr fun rest => eq_comm

/-- `front` is the part of the text in front of the first occurrence of the pattern, or all of the
text if there is none. -/
structure IsBefore (pattern text front : List Char) : Prop where
  split : ∃ rest, text = front ++ rest ∧ (rest = [] ∨ pattern <+: rest)
  first : ∀ a b, text = a ++ (pattern ++ b) → front.length ≤ a.length

theorem isBefore_before (pattern text : List Char) :
    IsBefore pattern text (before pattern text) := by
  induction text with
  | nil => exact ⟨⟨[], rfl, Or.inl rfl⟩, fun a b _ => Nat.zero_le _⟩
  | cons c rest ih =>
      rw [before]
      split
      · next hfound =>
          exact ⟨⟨c :: rest, rfl, Or.inr (isSome_after?_iff.1 hfound)⟩,
            fun a b _ => Nat.zero_le _⟩
      · next hnone =>
          obtain ⟨⟨behind, hsplit, hbehind⟩, hfirst⟩ := ih
          refine ⟨⟨behind, by rw [List.cons_append, ← hsplit], hbehind⟩, fun a b hab => ?_⟩
          cases a with
          | nil =>
              rw [isSome_after?_iff] at hnone
              exact absurd ⟨b, hab.symm⟩ hnone
          | cons x a =>
              rw [List.cons_append, List.cons.injEq] at hab
              exact Nat.succ_le_succ (hfirst a b hab.2)

end MediaShelf.Text
