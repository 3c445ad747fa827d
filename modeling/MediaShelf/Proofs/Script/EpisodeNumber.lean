import MediaShelf.Proofs.Text.Numeral
import MediaShelf.Script.TokenValue
import Mathlib.Data.List.Induction
import Mathlib.Tactic.Ring

/-!
# Episode numbers

Files are told apart and sorted by the numbers in their names. The number of an episode starts with
the mark of its kind, and no mark has a digit in it, so the text tells where the mark ends; padding
keeps the value of the digits. Hence no two numbers of episodes look the same.

Numbers up to the total of a show have as many digits as the total, whether the total is the first
one with so many digits or the last one (`Text.lt_pow_digitCount`). And rows of digits that are
equally long come in the order of their values (`Text.lt_iff_digitsValue_lt`), which is how file
lists sort them.
-/

namespace MediaShelf

namespace Text

/-! ## The order of digits -/

theorem lt_iff_digitValue_lt {c d : Char} (hc : isAsciiDigit c = true)
    (hd : isAsciiDigit d = true) : c < d ↔ digitValue c < digitValue d := by
  have hcode : c < d ↔ c.toNat < d.toNat := UInt32.lt_iff_toNat_lt
  have hcvalue := toNat_of_isAsciiDigit hc
  have hdvalue := toNat_of_isAsciiDigit hd
  rw [hcode]
  omega

theorem eq_iff_digitValue_eq {c d : Char} (hc : isAsciiDigit c = true)
    (hd : isAsciiDigit d = true) : c = d ↔ digitValue c = digitValue d := by
  have hcvalue := toNat_of_isAsciiDigit hc
  have hdvalue := toNat_of_isAsciiDigit hd
  rw [← Char.toNat_inj]
  omega

/-- The first digit counts as many tens as there are digits behind it. -/
theorem digitsValue_cons (c : Char) (cs : List Char) :
    digitsValue (c :: cs) = digitValue c * 10 ^ cs.length + digitsValue cs := by
  induction cs using List.reverseRecOn with
  | nil =>
      rw [← List.nil_append [c], digitsValue_append_singleton]
      simp [digitsValue]
  | append_singleton cs d ih =>
      rw [← List.cons_append, digitsValue_append_singleton, digitsValue_append_singleton, ih,
        List.length_append, List.length_singleton]
      ring

theorem digitsValue_lt_pow {cs : List Char} (h : ∀ c ∈ cs, isAsciiDigit c = true) :
    digitsValue cs < 10 ^ cs.length := by
  induction cs with
  | nil => decide
  | cons c cs ih =>
      obtain ⟨hc, hcs⟩ := List.forall_mem_cons.1 h
      have hdigit := (toNat_of_isAsciiDigit hc).2
      calc digitsValue (c :: cs)
          = digitValue c * 10 ^ cs.length + digitsValue cs := digitsValue_cons c cs
        _ < digitValue c * 10 ^ cs.length + 10 ^ cs.length := Nat.add_lt_add_left (ih hcs) _
        _ = (digitValue c + 1) * 10 ^ cs.length := (Nat.succ_mul _ _).symm
        _ ≤ 10 * 10 ^ cs.length := Nat.mul_le_mul_right _ hdigit
        _ = 10 ^ (c :: cs).length := by rw [List.length_cons, pow_succ, mul_comm]

/-- Of two numbers, the one that has fewer whole units is less. -/
theorem lt_of_units_lt {a b m n unit : Nat} (hab : a < b) (hm : m < unit) :
    a * unit + m < b * unit + n := by
  calc a * unit + m < a * unit + unit := Nat.add_lt_add_left hm _
    _ = (a + 1) * unit := (Nat.succ_mul a unit).symm
    _ ≤ b * unit := Nat.mul_le_mul_right unit hab
    _ ≤ b * unit + n := Nat.le_add_right _ n

/-- Rows of digits that are equally long are in the order of their values. -/
theorem lt_iff_digitsValue_lt {a b : List Char} (ha : ∀ c ∈ a, isAsciiDigit c = true)
    (hb : ∀ c ∈ b, isAsciiDigit c = true) (hlength : a.length = b.length) :
    a < b ↔ digitsValue a < digitsValue b := by
  induction a generalizing b with
  | nil =>
      rw [List.length_eq_zero_iff.1 hlength.symm]
      exact iff_of_false (List.not_lt_nil []) (lt_irrefl _)
  | cons c cs ih =>
      cases b with
      | nil => cases hlength
      | cons d ds =>
          obtain ⟨hc, hcs⟩ := List.forall_mem_cons.1 ha
          obtain ⟨hd, hds⟩ := List.forall_mem_cons.1 hb
          have hrest : cs.length = ds.length := Nat.succ.inj hlength
          have hcbound := digitsValue_lt_pow hcs
          have hdbound := digitsValue_lt_pow hds
          rw [List.cons_lt_cons_iff, ih hcs hds hrest, lt_iff_digitValue_lt hc hd,
            eq_iff_digitValue_eq hc hd, digitsValue_cons, digitsValue_cons, ← hrest]
          rw [← hrest] at hdbound
          rcases lt_trichotomy (digitValue c) (digitValue d) with h | h | h
          · exact iff_of_true (Or.inl h) (lt_of_units_lt h hcbound)
          · rw [h]
            simp
          · exact iff_of_false (by omega) (lt_of_units_lt h hdbound).asymm

theorem append_lt_append_iff (front : List Char) {a b : List Char} :
    front ++ a < front ++ b ↔ a < b := by
  induction front with
  | nil => rfl
  | cons c front ih =>
      rw [List.cons_append, List.cons_append, List.cons_lt_cons_iff, ih]
      simp

/-! ## How many digits a number has -/

theorem digitCount_pos (n : Nat) : 0 < digitCount n := by
  rw [digitCount]
  split <;> omega

theorem lt_pow_digitCount (n : Nat) : n < 10 ^ digitCount n := by
  fun_induction digitCount n with
  | case1 n h => omega
  | case2 n h ih =>
      rw [pow_succ]
      omega

theorem length_paddedDigits_digitCount {n total : Nat} (h : n ≤ total) :
    (paddedDigits (digitCount total) n).length = digitCount total :=
  length_paddedDigits (h.trans_lt (lt_pow_digitCount total)) (digitCount_pos total)

theorem paddedDigits_inj {width n m : Nat} :
    paddedDigits width n = paddedDigits width m ↔ n = m := by
  refine ⟨fun h => ?_, congrArg _⟩
  rw [← digitsValue_paddedDigits width n, h, digitsValue_paddedDigits]

end Text

/-! ## Marks of kinds -/

theorem EpisodeKind.numberMark_inj {a b : EpisodeKind} :
    a.numberMark.toList = b.numberMark.toList ↔ a = b := by
  cases a <;> cases b <;> simp [numberMark]

theorem EpisodeKind.not_isAsciiDigit_of_mem_numberMark (kind : EpisodeKind) :
    ∀ c ∈ kind.numberMark.toList, (!Text.isAsciiDigit c) = true := by
  rw [← List.all_eq_true]
  cases kind <;> decide

/-! ## Numbers of episodes -/

section

variable {s : Show} {a b : Episode}

theorem toList_episodeNumber (episode : Episode) (s : Show) :
    (episodeNumber episode s).toList = episode.kind.numberMark.toList ++
      Text.paddedDigits (digitCount (s.total episode.kind)) episode.number.toNat := by
  rw [episodeNumber, String.toList_append, String.toList_ofList]

/-- The mark goes as far as there is no digit. -/
theorem takeWhile_episodeNumber (episode : Episode) (s : Show) :
    (episodeNumber episode s).toList.takeWhile (!Text.isAsciiDigit ·) =
      episode.kind.numberMark.toList := by
  obtain ⟨c, cs, hcons, hdigit⟩ := Text.exists_paddedDigits_eq_cons
    (digitCount (s.total episode.kind)) episode.number.toNat
  rw [toList_episodeNumber, hcons,
    List.takeWhile_append_of_pos episode.kind.not_isAsciiDigit_of_mem_numberMark,
    List.takeWhile_cons_of_neg (by simp [hdigit]), List.append_nil]

theorem episodeNumber_inj :
    episodeNumber a s = episodeNumber b s ↔ a.kind = b.kind ∧ a.number = b.number := by
  constructor
  · intro h
    have hkind : a.kind = b.kind := by
      rw [← EpisodeKind.numberMark_inj, ← takeWhile_episodeNumber a s, h, takeWhile_episodeNumber]
    have hlist := congrArg String.toList h
    rw [toList_episodeNumber, toList_episodeNumber, hkind, List.append_cancel_left_eq,
      Text.paddedDigits_inj] at hlist
    exact ⟨hkind, UInt32.toNat_inj.1 hlist⟩
  · rintro ⟨hkind, hnumber⟩
    rw [episodeNumber, episodeNumber, hkind, hnumber]

theorem length_episodeNumber (h : a.number.toNat ≤ s.total a.kind) :
    (episodeNumber a s).toList.length =
      a.kind.numberMark.toList.length + digitCount (s.total a.kind) := by
  rw [toList_episodeNumber, List.length_append, Text.length_paddedDigits_digitCount h]

theorem episodeNumber_lt_iff (hkind : a.kind = b.kind) (ha : a.number.toNat ≤ s.total a.kind)
    (hb : b.number.toNat ≤ s.total b.kind) :
    (episodeNumber a s).toList < (episodeNumber b s).toList ↔ a.number < b.number := by
  have hlength : (Text.paddedDigits (digitCount (s.total b.kind)) a.number.toNat).length =
      (Text.paddedDigits (digitCount (s.total b.kind)) b.number.toNat).length := by
    rw [Text.length_paddedDigits_digitCount (hkind ▸ ha), Text.length_paddedDigits_digitCount hb]
  rw [toList_episodeNumber, toList_episodeNumber, hkind, Text.append_lt_append_iff,
    Text.lt_iff_digitsValue_lt (fun _ => Text.isAsciiDigit_of_mem_paddedDigits)
      (fun _ => Text.isAsciiDigit_of_mem_paddedDigits) hlength,
    Text.digitsValue_paddedDigits, Text.digitsValue_paddedDigits, UInt32.lt_iff_toNat_lt]

/-- Numbers of episodes are told apart, and those of one kind that do not exceed the show's total are
equally long and sort by number. -/
theorem episodeNumber_unambiguous_sorted (s : Show) (a b : Episode) :
    (episodeNumber a s = episodeNumber b s ↔ a.kind = b.kind ∧ a.number = b.number) ∧
      (a.kind = b.kind → a.number.toNat ≤ s.total a.kind → b.number.toNat ≤ s.total b.kind →
        (episodeNumber a s).toList.length = (episodeNumber b s).toList.length ∧
          ((episodeNumber a s).toList < (episodeNumber b s).toList ↔ a.number < b.number)) := by
  refine ⟨episodeNumber_inj, fun hkind ha hb => ⟨?_, episodeNumber_lt_iff hkind ha hb⟩⟩
  rw [length_episodeNumber ha, length_episodeNumber hb, hkind]

end

/-- A show of as many episodes as first need three digits. -/
def hundred : Show := { id := 1, normalEpisodes := 100 }

theorem episodeNumber_unambiguous_sorted_hundred :
    (9 : UInt32).toNat ≤ hundred.total .normal ∧ (100 : UInt32).toNat ≤ hundred.total .normal ∧
      (episodeNumber { id := 1, showId := 1, number := 9 } hundred).toList.length =
        (episodeNumber { id := 2, showId := 1, number := 100 } hundred).toList.length ∧
      (episodeNumber { id := 1, showId := 1, number := 9 } hundred).toList <
        (episodeNumber { id := 2, showId := 1, number := 100 } hundred).toList := by
  have hnine : (9 : UInt32).toNat ≤ hundred.total .normal := by decide
  have hlast : (100 : UInt32).toNat ≤ hundred.total .normal := by decide
  obtain ⟨-, hsorted⟩ := episodeNumber_unambiguous_sorted hundred
    { id := 1, showId := 1, number := 9 } { id := 2, showId := 1, number := 100 }
  obtain ⟨hlength, horder⟩ := hsorted rfl hnine hlast
  exact ⟨hnine, hlast, hlength, horder.2 (by decide)⟩

end MediaShelf
