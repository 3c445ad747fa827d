import MediaShelf.Proofs.Script.SafeName
import Mathlib.Data.Nat.Init
import Mathlib.Tactic.ByContra

/-!
# Safe names are normal forms

Which names are safe can be said without making any name safe: they have no control characters, no
reserved ones and no three dots in a row (`IsSafe`). A name is safe already exactly if making it
safe changes nothing, and what comes out of it is safe, so doing it twice is doing it once.

That alone would also hold if every name became the empty one. The other half is `Collapses`, which
says what every part of a name becomes. It reads a text in maximal runs of dots and single other
characters. A run is followed by something that is no dot, and what that becomes is no dot either
(`Collapses.head?_ne`). So the dots that are left of a run never meet those of the next one, and
two of them are the most that can stand together.
-/

namespace MediaShelf

/-- The characters that some filesystem reserves. -/
def reservedChars : List Char :=
  ['*', '|', '\\', '/', ':', '"', '<', '>', '?']

theorem map_fst_standIns : standIns.map (·.1) = reservedChars := rfl

/-- A text that every filesystem takes as it is. -/
structure IsSafe (cs : List Char) : Prop where
  shown : ∀ c ∈ cs, Text.isControlChar c = false
  unreserved : ∀ c ∈ cs, c ∉ reservedChars
  collapsed : ¬ ['.', '.', '.'] <:+: cs

/-- What becomes of a text without control characters, read in maximal runs of dots and single other
characters. -/
inductive Collapses : List Char → List Char → Prop
  | nil : Collapses [] []
  /-- A run collapses as a whole, since no dot follows it. -/
  | run {count : Nat} {rest out : List Char} (positive : 0 < count)
      (maximal : rest.head? ≠ some '.') (others : Collapses rest out) :
      Collapses (List.replicate count '.' ++ rest) (collapsedRun count ++ out)
  /-- Any other character stays, or the one that stands in for it does. -/
  | char {c : Char} {rest out : List Char} (other : c ≠ '.') (others : Collapses rest out) :
      Collapses (c :: rest) (standIn c :: out)

/-! ## Safe texts stay as they are -/

theorem IsSafe.shownChars_eq {cs : List Char} (h : IsSafe cs) : shownChars cs = cs := by
  rw [shownChars, List.filter_eq_self]
  intro c hc
  rw [h.shown c hc, Bool.not_false]

theorem IsSafe.map_standIn {cs : List Char} (h : IsSafe cs) : cs.map standIn = cs := by
  have hsame : ∀ c ∈ cs, standIn c = id c := fun c hc =>
    standIn_of_not_mem (map_fst_standIns ▸ h.unreserved c hc)
  rw [List.map_congr_left hsame, List.map_id]

theorem IsSafe.safeChars_eq {cs : List Char} (h : IsSafe cs) : safeChars cs = cs := by
  rw [MediaShelf.safeChars_eq, plainChars, h.shownChars_eq, h.map_standIn, collapseDots]
  exact Text.replaceAll_eq_self_of_not_infix h.collapsed

/-! ## What becomes of a text -/

theorem collapseDots_cons {c : Char} (h : c ≠ '.') (rest : List Char) :
    collapseDots (c :: rest) = c :: collapseDots rest := by
  have hfront := collapseDots_append_cons h [] rest
  rwa [collapseDots_nil] at hfront

theorem collapseDots_run {count : Nat} {rest : List Char} (h : rest.head? ≠ some '.') :
    collapseDots (List.replicate count '.' ++ rest) = collapsedRun count ++ collapseDots rest := by
  cases rest with
  | nil => rw [List.append_nil, collapseDots_nil, List.append_nil, collapseDots_replicate]
  | cons c rest =>
      have hc : c ≠ '.' := fun hdot => h (congrArg some hdot)
      rw [collapseDots_append_cons hc, collapseDots_replicate, collapseDots_cons hc]

theorem head?_map_standIn_ne {cs : List Char} (h : cs.head? ≠ some '.') :
    (cs.map standIn).head? ≠ some '.' := by
  rw [List.head?_map, Ne, Option.map_eq_some_iff]
  rintro ⟨c, hc, hdot⟩
  exact h (hc.trans (congrArg some (standIn_eq_dot_iff.1 hdot)))

theorem map_standIn_replicate (count : Nat) :
    (List.replicate count '.').map standIn = List.replicate count '.' := by
  rw [List.map_replicate, standIn_eq_dot_iff.2 rfl]

theorem Collapses.eq_collapseDots {cs out : List Char} (h : Collapses cs out) :
    out = collapseDots (cs.map standIn) := by
  induction h with
  | nil => exact collapseDots_nil.symm
  | run _ maximal _ ih =>
      rw [List.map_append, map_standIn_replicate,
        collapseDots_run (head?_map_standIn_ne maximal), ih]
  | char other _ ih =>
      rw [List.map_cons, collapseDots_cons (mt standIn_eq_dot_iff.1 other), ih]

/-- A text starts with a run of dots that is not followed by another one; the run may be empty. -/
theorem exists_run (cs : List Char) :
    ∃ count rest, cs = List.replicate count '.' ++ rest ∧ rest.head? ≠ some '.' := by
  induction cs with
  | nil => exact ⟨0, [], rfl, nofun⟩
  | cons c cs ih =>
      by_cases hc : c = '.'
      · obtain ⟨count, rest, rfl, hrest⟩ := ih
        exact ⟨count + 1, rest, by rw [hc, List.replicate_succ, List.cons_append], hrest⟩
      · exact ⟨0, c :: cs, rfl, fun h => hc (Option.some.inj h)⟩

theorem exists_collapses (cs : List Char) : ∃ out, Collapses cs out := by
  induction hlength : cs.length using Nat.strong_induction_on generalizing cs with
  | _ length ih =>
      obtain ⟨count, rest, rfl, hrest⟩ := exists_run cs
      rw [List.length_append, List.length_replicate] at hlength
      cases count with
      | succ count =>
          obtain ⟨out, hout⟩ := ih rest.length (by omega) rest rfl
          exact ⟨_, .run (Nat.succ_pos count) hrest hout⟩
      | zero =>
          cases rest with
          | nil => exact ⟨[], .nil⟩
          | cons c rest =>
              rw [List.length_cons] at hlength
              obtain ⟨out, hout⟩ := ih rest.length (by omega) rest rfl
              exact ⟨_, .char (fun hdot => hrest (congrArg some hdot)) hout⟩

theorem collapses_iff {cs out : List Char} :
    Collapses (shownChars cs) out ↔ safeChars cs = out := by
  rw [safeChars_eq, plainChars]
  constructor
  · exact fun h => h.eq_collapseDots.symm
  · rintro rfl
    obtain ⟨out, hout⟩ := exists_collapses (shownChars cs)
    exact hout.eq_collapseDots ▸ hout

/-! ## What comes out is safe -/

theorem Collapses.head?_ne {cs out : List Char} (h : Collapses cs out)
    (hhead : cs.head? ≠ some '.') : out.head? ≠ some '.' := by
  cases h with
  | nil => exact hhead
  | run positive maximal others =>
      obtain ⟨count, rfl⟩ := Nat.exists_eq_add_one.2 positive
      exact absurd rfl hhead
  | char other others => exact fun hdot => other (standIn_eq_dot_iff.1 (Option.some.inj hdot))

theorem not_threeDots_ellipses {count : Nat} {rest : List Char}
    (h : ¬ ['.', '.', '.'] <:+: rest) :
    ¬ ['.', '.', '.'] <:+: List.replicate count '…' ++ rest := by
  induction count with
  | zero => exact h
  | succ count ih =>
      rw [List.replicate_succ, List.cons_append, List.infix_cons_iff, not_or]
      refine ⟨fun hstarts => ?_, ih⟩
      rw [List.cons_prefix_cons] at hstarts
      exact absurd hstarts.1 (by decide)

/-- Up to two dots in front of something that is no dot are not three of them. -/
theorem not_threeDots_dots {count : Nat} {rest : List Char} (hcount : count < 3)
    (hhead : rest.head? ≠ some '.') (h : ¬ ['.', '.', '.'] <:+: rest) :
    ¬ ['.', '.', '.'] <:+: List.replicate count '.' ++ rest := by
  have hstop : ∀ more, ¬ '.' :: more <+: rest := by
    rintro more ⟨tail, rfl⟩
    exact hhead rfl
  have hone : ¬ ['.', '.', '.'] <:+: '.' :: rest := by
    rw [List.infix_cons_iff, List.cons_prefix_cons, not_or]
    exact ⟨fun hstarts => hstop _ hstarts.2, h⟩
  match count with
  | 0 => exact h
  | 1 => exact hone
  | 2 =>
      show ¬ ['.', '.', '.'] <:+: '.' :: '.' :: rest
      rw [List.infix_cons_iff, List.cons_prefix_cons, List.cons_prefix_cons, not_or]
      exact ⟨fun hstarts => hstop _ hstarts.2.2, hone⟩

theorem Collapses.not_threeDots {cs out : List Char} (h : Collapses cs out) :
    ¬ ['.', '.', '.'] <:+: out := by
  induction h with
  | nil => simp
  | run _ maximal others ih =>
      rw [collapsedRun, List.append_assoc]
      exact not_threeDots_ellipses
        (not_threeDots_dots (Nat.mod_lt _ (by decide)) (others.head?_ne maximal) ih)
  | char other _ ih =>
      rw [List.infix_cons_iff, List.cons_prefix_cons, not_or]
      exact ⟨fun hstarts => other (standIn_eq_dot_iff.1 hstarts.1.symm), ih⟩

theorem isSafe_safeChars (cs : List Char) : IsSafe (safeChars cs) where
  shown c hc := by
    by_contra hcontrol
    rw [Bool.not_eq_false] at hcontrol
    exact not_mem_safeChars_of_isControlChar hcontrol cs hc
  unreserved c hc := by
    intro hreserved
    have hellipsis : c ≠ '…' := by
      rintro rfl
      exact absurd hreserved (by decide)
    exact not_mem_safeChars (map_fst_standIns ▸ hreserved) hellipsis cs hc
  collapsed := (collapses_iff.2 rfl).not_threeDots

theorem safeChars_eq_self_iff {cs : List Char} : safeChars cs = cs ↔ IsSafe cs :=
  ⟨fun h => h ▸ isSafe_safeChars cs, fun h => h.safeChars_eq⟩

/-- Making a name safe gives its normal form: it is safe, it is the name itself exactly if that is
safe, so that a second time changes nothing, and it is what the runs of dots and the other
characters of the name become. -/
theorem safeName_isNormalForm (name : String) :
    IsSafe (safeName name).toList ∧
      (safeName name = name ↔ IsSafe name.toList) ∧
      safeName (safeName name) = safeName name ∧
      ∀ out, Collapses (shownChars name.toList) out ↔ (safeName name).toList = out := by
  have hchars : (safeName name).toList = safeChars name.toList := String.toList_ofList
  have hsafe : IsSafe (safeName name).toList := hchars ▸ isSafe_safeChars name.toList
  have hself : ∀ s : String, safeName s = s ↔ IsSafe s.toList := fun s => by
    rw [← safeChars_eq_self_iff, ← String.toList_inj, safeName, String.toList_ofList]
  refine ⟨hsafe, hself name, (hself _).2 hsafe, fun out => ?_⟩
  rw [hchars]
  exact collapses_iff

end MediaShelf
