import MediaShelf.Proofs.Text.Replacement
import MediaShelf.Script.SafeName

/-!
# What makes a name safe

A name is made safe in two steps. The first one works character by character (`plainChars`): control
characters go, and reserved ones are replaced. The second one collapses dots, and there a character
no longer has a fate of its own, because three neighbours make an ellipsis. But runs of dots do not
interact: whatever stands between two of them separates them (`collapseDots_append`). So it is enough
to know what becomes of one run, which is as many ellipses as there are threes in it, followed by the
dots that are left (`collapseDots_replicate`).
-/

namespace MediaShelf

/-- The characters of a name that are no control characters. -/
def shownChars (cs : List Char) : List Char :=
  cs.filter fun c => !Text.isControlChar c

/-- The first step: a name without control characters and reserved ones. -/
def plainChars (cs : List Char) : List Char :=
  (shownChars cs).map standIn

/-- The second step: a name with ellipses for every three dots. -/
def collapseDots (cs : List Char) : List Char :=
  Text.replaceAll ['.', '.', '.'] ['…'] cs

theorem safeChars_eq (cs : List Char) : safeChars cs = collapseDots (plainChars cs) := rfl

theorem plainChars_append (a b : List Char) :
    plainChars (a ++ b) = plainChars a ++ plainChars b := by
  simp only [plainChars, shownChars, List.filter_append, List.map_append]

/-! ## Characters -/

theorem standIn_of_not_mem {c : Char} (h : c ∉ standIns.map (·.1)) : standIn c = c := by
  have hnone : standIns.lookup c = none := by
    rw [List.lookup_eq_none_iff]
    intro entry hentry
    rw [bne_iff_ne]
    rintro rfl
    exact h (List.mem_map_of_mem hentry)
  rw [standIn, hnone, Option.getD_none]

/-- What stands in for a reserved character is not reserved, nor a dot or a backtick, and a control
character as little as the reserved one. -/
theorem standIn_of_mem {c : Char} (h : c ∈ standIns.map (·.1)) :
    standIn c ∉ standIns.map (·.1) ∧ standIn c ≠ '.' ∧ c ≠ '.' ∧ standIn c ≠ '\x60' ∧
      Text.isControlChar (standIn c) = Text.isControlChar c := by
  simp only [standIns, List.map_cons, List.map_nil, List.mem_cons, List.not_mem_nil, or_false] at h
  rcases h with rfl | rfl | rfl | rfl | rfl | rfl | rfl | rfl | rfl <;> decide

theorem standIn_not_mem (c : Char) : standIn c ∉ standIns.map (·.1) := by
  by_cases h : c ∈ standIns.map (·.1)
  · exact (standIn_of_mem h).1
  · rw [standIn_of_not_mem h]
    exact h

theorem standIn_eq_dot_iff {c : Char} : standIn c = '.' ↔ c = '.' := by
  by_cases h : c ∈ standIns.map (·.1)
  · obtain ⟨-, hstandIn, hc, -⟩ := standIn_of_mem h
    exact iff_of_false hstandIn hc
  · rw [standIn_of_not_mem h]

theorem standIn_standIn (c : Char) : standIn (standIn c) = standIn c :=
  standIn_of_not_mem (standIn_not_mem c)

theorem isControlChar_standIn (c : Char) :
    Text.isControlChar (standIn c) = Text.isControlChar c := by
  by_cases h : c ∈ standIns.map (·.1)
  · obtain ⟨-, -, -, -, hcontrol⟩ := standIn_of_mem h
    exact hcontrol
  · rw [standIn_of_not_mem h]

theorem not_mem_plainChars {c : Char} (h : c ∈ standIns.map (·.1)) (cs : List Char) :
    c ∉ plainChars cs := by
  intro hmem
  obtain ⟨a, -, rfl⟩ := List.mem_map.1 hmem
  exact standIn_not_mem a h

theorem dot_mem_plainChars {cs : List Char} (h : '.' ∈ plainChars cs) : '.' ∈ cs := by
  obtain ⟨c, hc, hdot⟩ := List.mem_map.1 h
  rw [standIn_eq_dot_iff.1 hdot] at hc
  exact (List.mem_filter.1 hc).1

/-! ## Runs of dots -/

theorem collapseDots_nil : collapseDots [] = [] := Text.replaceAll_nil

theorem collapseDots_append_cons {c : Char} (h : c ≠ '.') (cs rest : List Char) :
    collapseDots (cs ++ c :: rest) = collapseDots cs ++ c :: collapseDots rest := by
  refine Text.replaceAll_append_cons ?_ cs rest
  intro hmem
  simp only [List.mem_cons, List.not_mem_nil, or_false, or_self] at hmem
  exact h hmem

theorem collapseDots_eq_self {cs : List Char} (h : '.' ∉ cs) : collapseDots cs = cs :=
  Text.replaceAll_eq_self List.mem_cons_self h

theorem collapseDots_append {cs rest : List Char} (h : '.' ∉ rest) :
    collapseDots (cs ++ rest) = collapseDots cs ++ rest := by
  cases rest with
  | nil => rw [List.append_nil, List.append_nil]
  | cons c rest =>
      rw [List.mem_cons, not_or] at h
      rw [collapseDots_append_cons (Ne.symm h.1), collapseDots_eq_self h.2]

theorem collapseDots_eq_nil_iff {cs : List Char} : collapseDots cs = [] ↔ cs = [] :=
  Text.replaceAll_eq_nil_iff (List.cons_ne_nil _ _)

theorem mem_collapseDots {cs : List Char} {c : Char} (h : c ∈ collapseDots cs) :
    c ∈ cs ∨ c = '…' :=
  (Text.mem_replaceAll h).imp_right List.mem_singleton.1

/-- What becomes of a run of dots. -/
def collapsedRun (count : Nat) : List Char :=
  List.replicate (count / 3) '…' ++ List.replicate (count % 3) '.'

theorem collapseDots_replicate (count : Nat) :
    collapseDots (List.replicate count '.') = collapsedRun count := by
  match count with
  | 0 => exact collapseDots_nil
  | 1 => rfl
  | 2 => rfl
  | count + 3 =>
      have ih := collapseDots_replicate count
      have hrun : List.replicate (count + 3) '.' = ['.', '.', '.'] ++ List.replicate count '.' := by
        rw [Nat.add_comm, ← List.replicate_append_replicate]
        rfl
      have hthree : collapseDots (['.', '.', '.'] ++ List.replicate count '.') =
          ['…'] ++ collapseDots (List.replicate count '.') :=
        Text.replaceAll_append (by simp) _
      rw [hrun, hthree, ih, collapsedRun, collapsedRun, Nat.add_div_right count (by omega),
        Nat.add_mod_right, List.replicate_succ]
      rfl

/-- Fewer than three dots come from as many dots and nothing else, control characters apart. -/
theorem safeChars_eq_dots_iff {cs : List Char} {count : Nat} (h : count < 3) :
    safeChars cs = List.replicate count '.' ↔ shownChars cs = List.replicate count '.' := by
  have hplain : plainChars cs = List.replicate count '.' ↔
      shownChars cs = List.replicate count '.' := by
    simp only [plainChars, List.eq_replicate_iff, List.length_map, List.forall_mem_map,
      standIn_eq_dot_iff]
  rw [safeChars_eq, ← hplain]
  constructor
  · intro hsafe
    have hellipsis : '…' ∉ collapseDots (plainChars cs) := by
      rw [hsafe, List.mem_replicate, not_and]
      intro _
      decide
    rw [← hsafe]
    exact (Text.replaceAll_eq_self_of_not_mem (List.mem_singleton_self _) hellipsis).symm
  · intro hdots
    have hdiv : count / 3 = 0 := by omega
    have hmod : count % 3 = count := by omega
    rw [hdots, collapseDots_replicate, collapsedRun, hdiv, hmod, List.replicate_zero,
      List.nil_append]

theorem not_mem_safeChars {c : Char} (h : c ∈ standIns.map (·.1)) (hellipsis : c ≠ '…')
    (cs : List Char) : c ∉ safeChars cs := by
  intro hmem
  rw [safeChars_eq] at hmem
  rcases mem_collapseDots hmem with hplain | hnew
  · exact not_mem_plainChars h _ hplain
  · exact hellipsis hnew

theorem not_mem_safeChars_of_isControlChar {c : Char} (h : Text.isControlChar c = true)
    (cs : List Char) : c ∉ safeChars cs := by
  intro hmem
  rw [safeChars_eq] at hmem
  rcases mem_collapseDots hmem with hplain | hnew
  · obtain ⟨a, ha, hstandIn⟩ := List.mem_map.1 hplain
    have hshown := (List.mem_filter.1 ha).2
    rw [← isControlChar_standIn, hstandIn, h] at hshown
    cases hshown
  · rw [hnew] at h
    exact absurd h (by decide)

/-! ## A dot behind a name -/

/-- The number of dots that a text ends with. -/
def trailingDots (cs : List Char) : Nat :=
  (cs.reverse.takeWhile (· == '.')).length

/-- A text without the dots that it ends with is empty, or the last character is no dot. -/
theorem exists_eq_append_dots (cs : List Char) :
    ∃ front, cs = front ++ List.replicate (trailingDots cs) '.' ∧
      (front = [] ∨ ∃ front' c, c ≠ '.' ∧ front = front' ++ [c]) := by
  have hdots : cs.reverse.takeWhile (· == '.') = List.replicate (trailingDots cs) '.' := by
    rw [List.eq_replicate_iff]
    exact ⟨rfl, fun c hc => beq_iff_eq.1 (List.all_eq_true.1 List.all_takeWhile c hc)⟩
  refine ⟨(cs.reverse.dropWhile (· == '.')).reverse, ?_, ?_⟩
  · rw [← List.reverse_replicate, ← hdots, ← List.reverse_append, List.takeWhile_append_dropWhile,
      List.reverse_reverse]
  · cases h : cs.reverse.dropWhile (· == '.') with
    | nil => exact Or.inl rfl
    | cons c rest =>
        refine Or.inr ⟨rest.reverse, c, ?_, List.reverse_cons⟩
        exact beq_eq_false_iff_ne.1 (Text.eq_append_of_dropWhile_eq_cons h).1

/-- The dots that a text ends with collapse by themselves. -/
theorem collapseDots_append_dots {front : List Char} (count : Nat)
    (h : front = [] ∨ ∃ front' c, c ≠ '.' ∧ front = front' ++ [c]) :
    collapseDots (front ++ List.replicate count '.') = collapseDots front ++ collapsedRun count := by
  rcases h with rfl | ⟨front', c, hc, rfl⟩
  · rw [List.nil_append, collapseDots_nil, List.nil_append, collapseDots_replicate]
  · rw [List.append_assoc, List.singleton_append, collapseDots_append_cons hc,
      collapseDots_append_cons hc, collapseDots_replicate, collapseDots_nil, List.append_assoc,
      List.singleton_append]

/-- A dot behind a text stays a dot, unless it completes an ellipsis. -/
theorem collapseDots_append_dot (cs : List Char) :
    (trailingDots cs % 3 ≠ 2 → collapseDots (cs ++ ['.']) = collapseDots cs ++ ['.']) ∧
      (trailingDots cs % 3 = 2 → ∃ front, collapseDots (cs ++ ['.']) = front ++ ['…']) := by
  obtain ⟨front, hcs, hfront⟩ := exists_eq_append_dots cs
  generalize trailingDots cs = count at hcs ⊢
  -- The run at the end is longer by one, and the rest of the text does not notice.
  have hdot : cs ++ ['.'] = front ++ List.replicate (count + 1) '.' := by
    rw [hcs, List.append_assoc, List.replicate_succ']
  rw [hdot, hcs, collapseDots_append_dots _ hfront, collapseDots_append_dots _ hfront,
    List.append_assoc]
  unfold collapsedRun
  constructor
  · intro h
    have hdiv : (count + 1) / 3 = count / 3 := by omega
    have hmod : (count + 1) % 3 = count % 3 + 1 := by omega
    rw [hdiv, hmod, List.replicate_succ', List.append_assoc]
  · intro h
    have hdiv : (count + 1) / 3 = count / 3 + 1 := by omega
    have hmod : (count + 1) % 3 = 0 := by omega
    rw [hdiv, hmod, List.replicate_succ', List.replicate_zero, List.append_nil, ← List.append_assoc]
    exact ⟨_, rfl⟩

end MediaShelf
