import MediaShelf.Catalog.Snapshot
import MediaShelf.Placement.Resolve
import Mathlib.Data.List.Sort

/-!
# The order in which siblings are visited

Air dates are totally ordered, and the visits of placement follow them backwards with the undated
episodes at the end. `NewestFirst` says so without a sorting algorithm: the dates never rise along
the list, and the episodes of one date stand in it as they stand in the catalog. Those two facts
leave a single list (`NewestFirst.unique`), and merge sort produces it (`newestFirst_spec`).

The second half is about `dropRepeats`, which removes neighbours with one key. Whether anything is
left behind the first item does not depend on the order of the list: it is so exactly if two items
differ. That is how a crossover is recognized.
-/

namespace MediaShelf

/-! ## Dates -/

namespace Date

theorem before_iff {a b : Date} :
    a.before b = true ↔ a.year < b.year ∨ (a.year = b.year ∧
      (a.month < b.month ∨ (a.month = b.month ∧ a.day < b.day))) := by
  simp [before]

theorem not_before_trans {a b c : Date} (hab : a.before b = false) (hbc : b.before c = false) :
    a.before c = false := by
  rw [← Bool.not_eq_true, before_iff] at hab hbc ⊢
  omega

theorem not_before_total (a b : Date) : a.before b = false ∨ b.before a = false := by
  rw [← Bool.not_eq_true, ← Bool.not_eq_true, before_iff, before_iff]
  omega

theorem eq_of_not_before {a b : Date} (hab : a.before b = false) (hba : b.before a = false) :
    a = b := by
  rw [← Bool.not_eq_true, before_iff] at hab hba
  obtain ⟨yearA, monthA, dayA, _⟩ := a
  obtain ⟨yearB, monthB, dayB, _⟩ := b
  simp only [Date.mk.injEq] at hab hba ⊢
  omega

end Date

/-! ## Ties -/

section Ties

variable {α : Type} {le : α → α → Bool} {p : α → Bool} {l : List α}

/-- Merge sort keeps tied items in order, since they are a sorted part of the list. -/
theorem filter_mergeSort (htrans : ∀ a b c, le a b = true → le b c = true → le a c = true)
    (htotal : ∀ a b, (le a b || le b a) = true)
    (hties : ∀ a ∈ l, ∀ b ∈ l, p a = true → p b = true → le a b = true) :
    (l.mergeSort le).filter p = l.filter p := by
  have hsorted : (l.filter p).Pairwise fun a b => le a b = true := by
    refine List.pairwise_of_forall_mem_list fun a ha b hb => ?_
    rw [List.mem_filter] at ha hb
    exact hties a ha.1 b hb.1 ha.2 hb.2
  have hsub : (l.filter p).Sublist (l.mergeSort le) :=
    List.sublist_mergeSort htrans htotal hsorted List.filter_sublist
  have hsub' := hsub.filter p
  rw [List.filter_filter] at hsub'
  simp only [Bool.and_self] at hsub'
  have hlength := ((List.mergeSort_perm l le).filter p).length_eq
  exact (hsub'.eq_of_length hlength.symm).symm

/-- Insertion leaves the ties where they stand as well, whether or not the order tells all items
apart. -/
theorem mergeSort_eq_insertionSort
    (htrans : ∀ a b c, le a b = true → le b c = true → le a c = true)
    (htotal : ∀ a b, (le a b || le b a) = true) (l : List α) :
    l.mergeSort le = l.insertionSort (le · ·) := by
  induction l with
  | nil => exact List.mergeSort_nil
  | cons a rest ih =>
      obtain ⟨before, after, hsort, hrest, hbefore⟩ := List.mergeSort_cons htrans htotal a rest
      have hsorted := List.pairwise_mergeSort htrans htotal (a :: rest)
      rw [hsort, List.pairwise_append, List.pairwise_cons] at hsorted
      obtain ⟨-, ⟨hafter, -⟩, -⟩ := hsorted
      have hlater : ∀ b ∈ before, (decide ¬ le a b = true) = true := fun b hb => by
        simpa using hbefore b hb
      rw [hsort, List.insertionSort_cons, ← ih, hrest, List.orderedInsert_eq_take_drop,
        List.takeWhile_append_of_pos hlater, List.dropWhile_append_of_pos hlater]
      cases after with
      | nil => rw [List.takeWhile_nil, List.dropWhile_nil, List.append_nil]
      | cons b after =>
          have hnext : le a b = true := hafter b List.mem_cons_self
          simp [hnext]

end Ties

/-! ## Episodes by date -/

theorem airsNoEarlier_iff {a b : Episode} :
    airsNoEarlier a b = true ↔
      ∀ day, b.airDate = some day → ∃ date, a.airDate = some date ∧ date.before day = false := by
  unfold airsNoEarlier
  cases a.airDate <;> cases b.airDate <;> simp

theorem airsNoEarlier_trans (a b c : Episode) (hab : airsNoEarlier a b = true)
    (hbc : airsNoEarlier b c = true) : airsNoEarlier a c = true := by
  rw [airsNoEarlier_iff] at hab hbc ⊢
  intro day hday
  obtain ⟨middle, hmiddle, hlate⟩ := hbc day hday
  obtain ⟨date, hdate, hlater⟩ := hab middle hmiddle
  exact ⟨date, hdate, Date.not_before_trans hlater hlate⟩

theorem airsNoEarlier_total (a b : Episode) :
    (airsNoEarlier a b || airsNoEarlier b a) = true := by
  rw [Bool.or_eq_true, airsNoEarlier_iff, airsNoEarlier_iff]
  cases hb : b.airDate with
  | none => exact Or.inl (by simp)
  | some dayB =>
      cases ha : a.airDate with
      | none => exact Or.inr (by simp)
      | some dayA =>
          rcases Date.not_before_total dayA dayB with h | h
          · exact Or.inl (by simp [h])
          · exact Or.inr (by simp [h])

theorem airDate_eq_of_airsNoEarlier {a b : Episode} (hab : airsNoEarlier a b = true)
    (hba : airsNoEarlier b a = true) : a.airDate = b.airDate := by
  rw [airsNoEarlier_iff] at hab hba
  cases hb : b.airDate with
  | none =>
      cases ha : a.airDate with
      | none => rfl
      | some day =>
          obtain ⟨_, habsurd, _⟩ := hba day ha
          rw [hb] at habsurd
          cases habsurd
  | some day =>
      obtain ⟨date, hdate, hlate⟩ := hab day hb
      obtain ⟨day', hday', hearly⟩ := hba date hdate
      obtain rfl : day = day' := Option.some.inj (hb.symm.trans hday')
      rw [hdate, Date.eq_of_not_before hlate hearly]

theorem airsNoEarlier_of_airDate_eq {a b : Episode} (h : a.airDate = b.airDate) :
    airsNoEarlier a b = true := by
  rcases Bool.or_eq_true _ _ ▸ airsNoEarlier_total a b with hab | hba
  · exact hab
  · unfold airsNoEarlier at hba ⊢
    rw [h] at hba ⊢
    exact hba

/-- A list of the given episodes from the newest to the oldest, with the undated ones last. Episodes
of one date, and the undated ones, keep their order. -/
structure NewestFirst (episodes visited : List Episode) : Prop where
  perm : visited.Perm episodes
  falling : visited.Pairwise fun a b =>
    ∀ day, b.airDate = some day → ∃ date, a.airDate = some date ∧ date.before day = false
  stable : ∀ airDate : Option Date,
    visited.filter (·.airDate == airDate) = episodes.filter (·.airDate == airDate)

namespace NewestFirst

theorem pairwise_airsNoEarlier {episodes visited : List Episode} (h : NewestFirst episodes visited) :
    visited.Pairwise fun a b => airsNoEarlier a b = true :=
  h.falling.imp fun hab => airsNoEarlier_iff.2 hab

end NewestFirst

/-- Two lists that fall with the dates and agree on every single date are the same: their first
items are of one date, because neither is later than the other, and so they are one item. -/
theorem eq_of_falling_of_filter_eq {l₁ l₂ : List Episode}
    (h₁ : l₁.Pairwise fun a b => airsNoEarlier a b = true)
    (h₂ : l₂.Pairwise fun a b => airsNoEarlier a b = true)
    (hf : ∀ airDate : Option Date,
      l₁.filter (·.airDate == airDate) = l₂.filter (·.airDate == airDate)) : l₁ = l₂ := by
  have hmem : ∀ a, a ∈ l₁ ↔ a ∈ l₂ := by
    intro a
    have := congrArg (a ∈ ·) (hf a.airDate)
    simpa using this
  induction l₁ generalizing l₂ with
  | nil =>
      cases l₂ with
      | nil => rfl
      | cons b rest => exact absurd ((hmem b).2 List.mem_cons_self) List.not_mem_nil
  | cons a t₁ ih =>
      cases l₂ with
      | nil => exact absurd ((hmem a).1 List.mem_cons_self) List.not_mem_nil
      | cons b t₂ =>
          rw [List.pairwise_cons] at h₁ h₂
          have hab : airsNoEarlier a b = true := by
            rcases List.mem_cons.1 ((hmem b).2 List.mem_cons_self) with rfl | hb
            · exact airsNoEarlier_of_airDate_eq rfl
            · exact h₁.1 b hb
          have hba : airsNoEarlier b a = true := by
            rcases List.mem_cons.1 ((hmem a).1 List.mem_cons_self) with rfl | ha
            · exact airsNoEarlier_of_airDate_eq rfl
            · exact h₂.1 a ha
          have hdate := airDate_eq_of_airsNoEarlier hab hba
          obtain rfl : a = b := by
            have := hf a.airDate
            simp only [List.filter_cons, beq_self_eq_true, if_true, hdate] at this
            exact (List.cons.inj this).1
          have htail : ∀ airDate : Option Date,
              t₁.filter (·.airDate == airDate) = t₂.filter (·.airDate == airDate) := by
            intro airDate
            have := hf airDate
            simp only [List.filter_cons] at this
            split at this
            · exact (List.cons.inj this).2
            · exact this
          rw [ih h₁.2 h₂.2 htail fun x => by
            have := congrArg (x ∈ ·) (htail x.airDate)
            simpa using this]

theorem NewestFirst.unique {episodes l₁ l₂ : List Episode} (h₁ : NewestFirst episodes l₁)
    (h₂ : NewestFirst episodes l₂) : l₁ = l₂ :=
  eq_of_falling_of_filter_eq h₁.pairwise_airsNoEarlier h₂.pairwise_airsNoEarlier fun airDate =>
    (h₁.stable airDate).trans (h₂.stable airDate).symm

theorem filter_newestFirst (episodes : List Episode) (airDate : Option Date) :
    (newestFirst episodes).filter (·.airDate == airDate) =
      episodes.filter (·.airDate == airDate) := by
  refine filter_mergeSort airsNoEarlier_trans airsNoEarlier_total fun a _ b _ ha hb => ?_
  exact airsNoEarlier_of_airDate_eq ((beq_iff_eq.1 ha).trans (beq_iff_eq.1 hb).symm)

theorem newestFirst_spec (episodes : List Episode) : NewestFirst episodes (newestFirst episodes) where
  perm := List.mergeSort_perm episodes airsNoEarlier
  falling := (List.pairwise_mergeSort airsNoEarlier_trans airsNoEarlier_total episodes).imp
    fun hab => airsNoEarlier_iff.1 hab
  stable := filter_newestFirst episodes

theorem newestFirst_eq_insertionSort (episodes : List Episode) :
    newestFirst episodes = episodes.insertionSort (airsNoEarlier · ·) :=
  mergeSort_eq_insertionSort airsNoEarlier_trans airsNoEarlier_total episodes

theorem NewestFirst.eq_newestFirst {episodes visited : List Episode}
    (h : NewestFirst episodes visited) : visited = newestFirst episodes :=
  h.unique (newestFirst_spec episodes)

/-! ## Neighbours with one key -/

section Repeats

variable {α κ : Type} [DecidableEq κ] {key : α → κ}

theorem dropRepeatsAfter_eq_nil_iff {previous : κ} {l : List α} :
    dropRepeatsAfter key previous l = [] ↔ ∀ a ∈ l, key a = previous := by
  induction l with
  | nil => simp [dropRepeatsAfter]
  | cons a rest ih =>
      rw [dropRepeatsAfter, List.forall_mem_cons]
      split
      · next heq => rw [ih, and_iff_right heq]
      · next hne => simp [hne]

/-- More than one item survives exactly if the list has two keys. -/
theorem one_lt_length_dropRepeats {l : List α} :
    1 < (dropRepeats key l).length ↔ ∃ a ∈ l, ∃ b ∈ l, key a ≠ key b := by
  cases l with
  | nil => simp [dropRepeats]
  | cons a rest =>
      have hlength : 1 < (dropRepeats key (a :: rest)).length ↔
          dropRepeatsAfter key (key a) rest ≠ [] := by
        rw [dropRepeats, List.length_cons, ← List.length_pos_iff]
        omega
      rw [hlength, ne_eq, dropRepeatsAfter_eq_nil_iff]
      constructor
      · intro h
        obtain ⟨b, hb, hne⟩ : ∃ b ∈ rest, key b ≠ key a := by
          simpa only [not_forall, exists_prop] using h
        exact ⟨b, List.mem_cons_of_mem a hb, a, List.mem_cons_self, hne⟩
      · rintro ⟨b, hb, c, hc, hne⟩ hall
        have hall' : ∀ x ∈ a :: rest, key x = key a := List.forall_mem_cons.2 ⟨rfl, hall⟩
        exact hne ((hall' b hb).trans (hall' c hc).symm)

theorem dropRepeatsAfter_sublist (previous : κ) (l : List α) :
    (dropRepeatsAfter key previous l).Sublist l := by
  induction l generalizing previous with
  | nil => exact .slnil
  | cons a rest ih =>
      rw [dropRepeatsAfter]
      split
      · exact (ih previous).cons a
      · exact (ih (key a)).cons_cons a

theorem dropRepeats_sublist (l : List α) : (dropRepeats key l).Sublist l := by
  cases l with
  | nil => exact .slnil
  | cons a rest => exact (dropRepeatsAfter_sublist (key a) rest).cons_cons a

theorem key_mem_of_mem_dropRepeatsAfter (previous : κ) {l : List α} {a : α} (h : a ∈ l) :
    key a = previous ∨ ∃ b ∈ dropRepeatsAfter key previous l, key b = key a := by
  induction l generalizing previous with
  | nil => cases h
  | cons first rest ih =>
      rw [dropRepeatsAfter]
      split
      · next heq =>
          rcases List.mem_cons.1 h with rfl | hrest
          · exact Or.inl heq
          · exact ih previous hrest
      · next hne =>
          rcases List.mem_cons.1 h with rfl | hrest
          · exact Or.inr ⟨a, List.mem_cons_self, rfl⟩
          · rcases ih (key first) hrest with heq | ⟨b, hb, heq⟩
            · exact Or.inr ⟨first, List.mem_cons_self, heq.symm⟩
            · exact Or.inr ⟨b, List.mem_cons_of_mem first hb, heq⟩

/-- Every key of a list survives. -/
theorem exists_mem_dropRepeats {l : List α} {a : α} (h : a ∈ l) :
    ∃ b ∈ dropRepeats key l, key b = key a := by
  cases l with
  | nil => cases h
  | cons first rest =>
      rw [dropRepeats]
      rcases List.mem_cons.1 h with rfl | hrest
      · exact ⟨a, List.mem_cons_self, rfl⟩
      · rcases key_mem_of_mem_dropRepeatsAfter (key first) hrest with
          heq | ⟨b, hb, heq⟩
        · exact ⟨first, List.mem_cons_self, heq.symm⟩
        · exact ⟨b, List.mem_cons_of_mem first hb, heq⟩

theorem mem_dropRepeats {l : List α} (hkey : ∀ a ∈ l, ∀ b ∈ l, key a = key b → a = b) {a : α} :
    a ∈ dropRepeats key l ↔ a ∈ l := by
  have hsub : (dropRepeats key l).Sublist l := dropRepeats_sublist l
  refine ⟨fun h => hsub.subset h, fun h => ?_⟩
  obtain ⟨b, hb, heq⟩ : ∃ b ∈ dropRepeats key l, key b = key a := exists_mem_dropRepeats h
  rwa [← hkey b (hsub.subset hb) a h heq]

variable {le : α → α → Bool}

/-- In a sorted list equal keys are neighbours, if the order tells different keys apart. So no key
survives twice. -/
theorem pairwise_key_ne_dropRepeatsAfter
    (htrans : ∀ a b c, le a b = true → le b c = true → le a c = true) {first : α} {l : List α}
    (hsorted : (first :: l).Pairwise fun a b => le a b = true)
    (hties : ∀ a ∈ first :: l, ∀ b ∈ first :: l,
      key a = key b ↔ le a b = true ∧ le b a = true) :
    (first :: dropRepeatsAfter key (key first) l).Pairwise fun a b => key a ≠ key b := by
  induction l generalizing first with
  | nil => exact List.pairwise_singleton _ first
  | cons next rest ih =>
      rw [List.pairwise_cons, List.forall_mem_cons] at hsorted
      obtain ⟨⟨hnext, hfirst⟩, hrest⟩ := hsorted
      rw [dropRepeatsAfter]
      split
      · next heq =>
          refine ih (List.pairwise_cons.2 ⟨hfirst, (List.pairwise_cons.1 hrest).2⟩) ?_
          have hsub : first :: rest ⊆ first :: next :: rest :=
            List.cons_subset_cons first (List.subset_cons_self next rest)
          exact fun a ha b hb => hties a (hsub ha) b (hsub hb)
      · next hne =>
          have hkept := ih hrest fun a ha b hb =>
            hties a (List.mem_cons_of_mem first ha) b (List.mem_cons_of_mem first hb)
          refine List.pairwise_cons.2 ⟨fun other hother heq => ?_, hkept⟩
          have hsub : (dropRepeatsAfter key (key next) rest).Sublist rest :=
            dropRepeatsAfter_sublist (key next) rest
          have hmem : other ∈ next :: rest := (hsub.cons_cons next).subset hother
          have hback : le other first = true :=
            ((hties first List.mem_cons_self other (List.mem_cons_of_mem first hmem)).1 heq).2
          -- A key that comes back further behind encloses `next` from both sides.
          have hbetween : le next first = true := by
            rcases List.mem_cons.1 hmem with rfl | hlater
            · exact hback
            · exact htrans _ _ _ ((List.pairwise_cons.1 hrest).1 other hlater) hback
          exact hne ((hties next (List.mem_cons_of_mem first List.mem_cons_self) first
            List.mem_cons_self).2 ⟨hbetween, hnext⟩)

theorem nodup_dropRepeats (htrans : ∀ a b c, le a b = true → le b c = true → le a c = true)
    {l : List α} (hsorted : l.Pairwise fun a b => le a b = true)
    (hties : ∀ a ∈ l, ∀ b ∈ l, key a = key b ↔ le a b = true ∧ le b a = true) :
    (dropRepeats key l).Nodup := by
  cases l with
  | nil => exact List.nodup_nil
  | cons first rest =>
      exact (pairwise_key_ne_dropRepeatsAfter htrans hsorted hties).imp
        fun hne heq => hne (congrArg key heq)

theorem mem_dropRepeats_mergeSort {l : List α}
    (hkey : ∀ a ∈ l, ∀ b ∈ l, key a = key b → a = b) {a : α} :
    a ∈ dropRepeats key (l.mergeSort le) ↔ a ∈ l := by
  rw [mem_dropRepeats, List.mem_mergeSort]
  simpa only [List.mem_mergeSort] using hkey

theorem nodup_dropRepeats_mergeSort
    (htrans : ∀ a b c, le a b = true → le b c = true → le a c = true)
    (htotal : ∀ a b, (le a b || le b a) = true) {l : List α}
    (hkey : ∀ a ∈ l, ∀ b ∈ l, key a = key b → a = b)
    (hanti : ∀ a ∈ l, ∀ b ∈ l, le a b = true → le b a = true → a = b) :
    (dropRepeats key (l.mergeSort le)).Nodup := by
  refine nodup_dropRepeats htrans (List.pairwise_mergeSort htrans htotal l) fun a ha b hb => ?_
  rw [List.mem_mergeSort] at ha hb
  constructor
  · intro heq
    have hrefl : le a a = true := by simpa using htotal a a
    rw [← hkey a ha b hb heq]
    exact ⟨hrefl, hrefl⟩
  · rintro ⟨hab, hba⟩
    rw [hanti a ha b hb hab hba]

/-- Sorting a list and dropping the repeats leaves the same list for all lists with the same items,
if the order and the key tell the items apart. -/
theorem dropRepeats_mergeSort_congr
    (htrans : ∀ a b c, le a b = true → le b c = true → le a c = true)
    (htotal : ∀ a b, (le a b || le b a) = true) {l₁ l₂ : List α}
    (hkey : ∀ a ∈ l₁, ∀ b ∈ l₁, key a = key b → a = b)
    (hanti : ∀ a ∈ l₁, ∀ b ∈ l₁, le a b = true → le b a = true → a = b)
    (hmem : ∀ a, a ∈ l₁ ↔ a ∈ l₂) :
    dropRepeats key (l₁.mergeSort le) = dropRepeats key (l₂.mergeSort le) := by
  have hkey₂ : ∀ a ∈ l₂, ∀ b ∈ l₂, key a = key b → a = b := by simpa only [hmem] using hkey
  have hanti₂ : ∀ a ∈ l₂, ∀ b ∈ l₂, le a b = true → le b a = true → a = b := by
    simpa only [hmem] using hanti
  have hsorted : ∀ l : List α,
      (dropRepeats key (l.mergeSort le)).Pairwise fun a b => le a b = true := fun l =>
    (List.pairwise_mergeSort htrans htotal l).sublist (dropRepeats_sublist _)
  have hperm : (dropRepeats key (l₁.mergeSort le)).Perm (dropRepeats key (l₂.mergeSort le)) :=
    (List.perm_ext_iff_of_nodup (nodup_dropRepeats_mergeSort htrans htotal hkey hanti)
      (nodup_dropRepeats_mergeSort htrans htotal hkey₂ hanti₂)).2 fun a => by
        rw [mem_dropRepeats_mergeSort hkey, mem_dropRepeats_mergeSort hkey₂, hmem]
  refine hperm.eq_of_pairwise (fun a b ha hb hab hba => ?_) (hsorted l₁) (hsorted l₂)
  exact hanti a ((mem_dropRepeats_mergeSort hkey).1 ha) b
    ((hmem b).2 ((mem_dropRepeats_mergeSort hkey₂).1 hb)) hab hba

end Repeats

end MediaShelf
