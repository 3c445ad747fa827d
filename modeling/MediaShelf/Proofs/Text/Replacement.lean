import MediaShelf.Proofs.Text.Scanning

/-!
# Replacing a pattern

`replaceAll` counts the characters of an occurrence that it still has to pass. The equations below
forget the count: a text that starts with the pattern loses it as a whole, and any other text keeps
its first character. Together with the empty text they determine the result, and everything about
replacements is an induction along them.
-/

namespace MediaShelf.Text

variable {pattern replacement : List Char}

theorem replaceFrom_eq_drop (skip : Nat) (cs : List Char) :
    replaceFrom pattern replacement skip cs =
      replaceFrom pattern replacement 0 (cs.drop skip) := by
  induction cs generalizing skip with
  | nil => rw [List.drop_nil, replaceFrom, replaceFrom]
  | cons c rest ih =>
      cases skip with
      | zero => rfl
      | succ skip => rw [replaceFrom, List.drop_succ_cons, ih]

theorem replaceAll_nil : replaceAll pattern replacement [] = [] := by
  rw [replaceAll, replaceFrom]
  split <;> rfl

theorem replaceAll_append (hne : pattern ≠ []) (rest : List Char) :
    replaceAll pattern replacement (pattern ++ rest) =
      replacement ++ replaceAll pattern replacement rest := by
  cases pattern with
  | nil => exact absurd rfl hne
  | cons p ps =>
      have hfound : (after? (p :: ps) (p :: (ps ++ rest))).isSome = true :=
        isSome_after?_iff.2 (List.prefix_append (p :: ps) rest)
      simp only [replaceAll, List.isEmpty_cons, Bool.false_eq_true, if_false, List.cons_append]
      rw [replaceFrom, if_pos hfound, replaceFrom_eq_drop, List.length_cons,
        Nat.add_sub_cancel, List.drop_left]

theorem replaceAll_cons {c : Char} {rest : List Char} (h : ¬ pattern <+: c :: rest) :
    replaceAll pattern replacement (c :: rest) = c :: replaceAll pattern replacement rest := by
  have hne : pattern.isEmpty = false := by
    cases pattern with
    | nil => exact absurd List.nil_prefix h
    | cons p ps => rfl
  simp only [replaceAll, hne, Bool.false_eq_true, if_false]
  rw [replaceFrom, if_neg (mt isSome_after?_iff.1 h)]

theorem replaceAll_eq_nil_iff (hne : replacement ≠ []) {cs : List Char} :
    replaceAll pattern replacement cs = [] ↔ cs = [] := by
  constructor
  · intro h
    by_cases hpattern : pattern = []
    · rwa [hpattern] at h
    · by_cases hstarts : pattern <+: cs
      · obtain ⟨rest, rfl⟩ := hstarts
        rw [replaceAll_append hpattern, List.append_eq_nil_iff] at h
        exact absurd h.1 hne
      · cases cs with
        | nil => rfl
        | cons c rest =>
            rw [replaceAll_cons hstarts] at h
            cases h
  · rintro rfl
    exact replaceAll_nil

/-! ## Separators -/

theorem prefix_of_prefix_append_cons {α : Type} {c : α} {front cs rest : List α} (h : c ∉ front)
    (hstarts : front <+: cs ++ c :: rest) : front <+: cs := by
  induction front generalizing cs with
  | nil => exact List.nil_prefix
  | cons a front ih =>
      rw [List.mem_cons, not_or] at h
      cases cs with
      | nil =>
          rw [List.nil_append, List.cons_prefix_cons] at hstarts
          exact absurd hstarts.1.symm h.1
      | cons b cs =>
          rw [List.cons_append, List.cons_prefix_cons] at hstarts
          rw [List.cons_prefix_cons]
          exact ⟨hstarts.1, ih h.2 hstarts.2⟩

/-- A character that is not in the pattern keeps the occurrences on its two sides apart. -/
theorem replaceAll_append_cons {c : Char} (h : c ∉ pattern) (cs rest : List Char) :
    replaceAll pattern replacement (cs ++ c :: rest) =
      replaceAll pattern replacement cs ++ c :: replaceAll pattern replacement rest := by
  by_cases hne : pattern = []
  · subst hne
    rfl
  · -- An occurrence at the front cannot reach over `c`, so it lies in `cs` or there is none.
    by_cases hstarts : pattern <+: cs
    · obtain ⟨tail, rfl⟩ := hstarts
      have ih := replaceAll_append_cons h tail rest
      rw [List.append_assoc, replaceAll_append hne, ih, replaceAll_append hne, List.append_assoc]
    · have hno : ¬ pattern <+: cs ++ c :: rest :=
        fun hfull => hstarts (prefix_of_prefix_append_cons h hfull)
      cases cs with
      | nil => rw [List.nil_append, replaceAll_cons hno, replaceAll_nil, List.nil_append]
      | cons a cs =>
          have ih := replaceAll_append_cons h cs rest
          rw [List.cons_append] at hno ⊢
          rw [replaceAll_cons hno, ih, replaceAll_cons hstarts, List.cons_append]
termination_by cs.length
decreasing_by
  · have hlength := List.length_pos_iff.2 hne
    subst_vars
    rw [List.length_append]
    omega
  · subst_vars
    exact Nat.lt_succ_self _

theorem replaceAll_eq_self_of_not_infix {cs : List Char} (h : ¬ pattern <:+: cs) :
    replaceAll pattern replacement cs = cs := by
  induction cs with
  | nil => exact replaceAll_nil
  | cons c cs ih =>
      rw [replaceAll_cons fun hstarts => h hstarts.isInfix]
      rw [ih fun hlater => h (List.infix_cons hlater)]

theorem replaceAll_eq_self {p : Char} (hp : p ∈ pattern) {cs : List Char} (h : p ∉ cs) :
    replaceAll pattern replacement cs = cs :=
  replaceAll_eq_self_of_not_infix fun hoccurs => h (hoccurs.subset hp)

/-! ## Characters -/

/-- A result without a character of the replacement is the text itself. -/
theorem replaceAll_eq_self_of_not_mem {r : Char} (hr : r ∈ replacement) {cs : List Char}
    (h : r ∉ replaceAll pattern replacement cs) : replaceAll pattern replacement cs = cs := by
  induction cs with
  | nil => exact replaceAll_nil
  | cons c cs ih =>
      by_cases hne : pattern = []
      · subst hne
        rfl
      · by_cases hstarts : pattern <+: c :: cs
        · obtain ⟨rest, hrest⟩ := hstarts
          rw [← hrest, replaceAll_append hne, List.mem_append, not_or] at h
          exact absurd hr h.1
        · rw [replaceAll_cons hstarts, List.mem_cons, not_or] at h
          rw [replaceAll_cons hstarts, ih h.2]

theorem mem_replaceFrom {skip : Nat} {cs : List Char} {c : Char}
    (h : c ∈ replaceFrom pattern replacement skip cs) : c ∈ cs ∨ c ∈ replacement := by
  induction cs generalizing skip with
  | nil =>
      rw [replaceFrom] at h
      exact Or.inl h
  | cons a rest ih =>
      cases skip with
      | succ skip =>
          rw [replaceFrom] at h
          exact (ih h).imp_left (List.mem_cons_of_mem a)
      | zero =>
          rw [replaceFrom] at h
          split at h
          · rcases List.mem_append.1 h with hnew | hrest
            · exact Or.inr hnew
            · exact (ih hrest).imp_left (List.mem_cons_of_mem a)
          · rcases List.mem_cons.1 h with rfl | hrest
            · exact Or.inl List.mem_cons_self
            · exact (ih hrest).imp_left (List.mem_cons_of_mem a)

/-- Only the replacement brings new characters. -/
theorem mem_replaceAll {cs : List Char} {c : Char}
    (h : c ∈ replaceAll pattern replacement cs) : c ∈ cs ∨ c ∈ replacement := by
  unfold replaceAll at h
  split at h
  · exact Or.inl h
  · exact mem_replaceFrom h

end MediaShelf.Text
