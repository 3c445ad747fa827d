import MediaShelf.Library.Workload
import Mathlib.Data.List.Perm.Basic

/-!
# No job is lost and none is done twice

Whatever the schedule, the jobs that have started are always the first ones of the row, and each of
them is either in flight or reported. `Accounts` adds the two facts about slots that carry this
through a step: no more of them are taken than there are, and none is free while a job waits. The
slot of a job is given back when the next one starts, which is why a job that is about to be reported
and one that has just been both count.

A workload that has come to rest has no slot taken, so nothing waits, and the reports are the whole
row (`order_perm`). The schedules reach all the runs there are (`exists_schedule`): what holds for
every schedule holds for every interleaving.
-/

namespace MediaShelf.Workload

variable {α : Type}

/-- The states that a workload can get into, whichever jobs end first. -/
inductive Reaches (first : Workload α) : Workload α → Prop where
  | refl : Reaches first first
  | step {w next : Workload α} (choice : Nat) (before : Reaches first w)
      (h : w.step choice = some next) : Reaches first next

/-- The jobs that have started and are not reported. -/
def inFlight (w : Workload α) : List α :=
  match w.phase with
  | .reporting job => job :: w.running
  | _ => w.running

/-- How many slots are taken: one for each job in flight, and one that is to be refilled. -/
def slots (w : Workload α) : Nat :=
  match w.phase with
  | .refilling => w.running.length + 1
  | _ => w.inFlight.length

theorem inFlight_length_le (w : Workload α) : w.inFlight.length ≤ w.slots := by
  unfold slots inFlight
  cases w.phase <;> simp

/-- Where the jobs of a row are: the last ones wait, and the others are reported or in flight. As
long as a job waits, no slot is free. -/
structure Accounts (limit : Nat) (jobs : List α) (w : Workload α) : Prop where
  started : ∃ count, w.waiting = jobs.drop count ∧
    (w.reported ++ w.inFlight).Perm (jobs.take count)
  slots_le : w.slots ≤ limit
  slots_eq : w.waiting ≠ [] → w.slots = limit

theorem accounts_start (limit : Nat) (jobs : List α) : Accounts limit jobs (start limit jobs) where
  started := ⟨limit, rfl, List.Perm.refl _⟩
  slots_le := List.length_take_le limit jobs
  slots_eq := by
    intro hwaiting
    rw [start, ne_eq, List.drop_eq_nil_iff, Nat.not_le] at hwaiting
    exact List.length_take_of_le (Nat.le_of_lt hwaiting)

theorem Accounts.step {limit choice : Nat} {jobs : List α} {w next : Workload α}
    (hw : Accounts limit jobs w) (h : w.step choice = some next) : Accounts limit jobs next := by
  obtain ⟨⟨count, hwaiting, hperm⟩, hle, heq⟩ := hw
  rcases step_cases h with ⟨index, hindex, hphase, rfl⟩ | ⟨job, hphase, rfl⟩ | ⟨hphase, rfl⟩
  · -- The job that ends stays in flight, so no list of jobs has changed but by its order.
    simp only [slots, inFlight, hphase] at hperm hle heq
    have hlength := List.length_eraseIdx_add_one hindex
    refine ⟨⟨count, hwaiting, ?_⟩, ?_, ?_⟩
    · exact ((List.getElem_cons_eraseIdx_perm hindex).append_left w.reported).trans hperm
    · simp only [slots, inFlight, List.length_cons]
      omega
    · intro hne
      simp only [slots, inFlight, List.length_cons]
      rw [hlength]
      exact heq hne
  · simp only [slots, inFlight, hphase] at hperm hle heq
    refine ⟨⟨count, hwaiting, ?_⟩, hle, heq⟩
    simp only [inFlight, List.append_assoc]
    exact hperm
  · simp only [slots, inFlight, hphase] at hperm hle heq
    refine ⟨⟨count + 1, ?_, ?_⟩, ?_, ?_⟩
    · rw [hwaiting, List.drop_drop]
    · simp only [inFlight]
      rw [List.take_add, ← hwaiting, ← List.append_assoc]
      exact hperm.append_right _
    · simp only [slots, inFlight, List.length_append, List.length_take]
      omega
    · intro hne
      have hlong : 1 < w.waiting.length := by
        rw [ne_eq, List.drop_eq_nil_iff] at hne
        omega
      simp only [slots, inFlight, List.length_append, List.length_take]
      have := heq (List.ne_nil_of_length_pos (by omega))
      omega

/-- Wherever a run of a workload gets, the jobs are accounted for. -/
theorem Reaches.accounts {limit : Nat} {jobs : List α} {w : Workload α}
    (h : (start limit jobs).Reaches w) : Accounts limit jobs w := by
  induction h with
  | refl => exact accounts_start limit jobs
  | step choice _ hstep ih => exact ih.step hstep

/-- Nothing is in flight and nothing is due. -/
def AtRest (w : Workload α) : Prop :=
  w.phase = .awaiting ∧ w.running = []

theorem step_eq_none_iff {choice : Nat} {w : Workload α} :
    w.step choice = none ↔ w.AtRest := by
  unfold step AtRest
  cases hphase : w.phase with
  | reporting job => simp
  | refilling => simp
  | awaiting =>
      simp only [Option.map_eq_none_iff, List.getElem?_eq_none_iff, true_and]
      constructor
      · intro hle
        rcases Nat.eq_zero_or_pos w.running.length with hzero | hpos
        · exact List.length_eq_zero_iff.1 hzero
        · exact absurd (Nat.mod_lt choice hpos) (Nat.not_lt.2 hle)
      · intro hnil
        rw [hnil]
        exact Nat.zero_le _

/-- A workload that waits for a job to end has one running as long as any job waits. -/
theorem Accounts.running_ne_nil {limit : Nat} {jobs : List α} {w : Workload α}
    (hw : Accounts limit jobs w) (hlimit : 0 < limit) (hphase : w.phase = .awaiting)
    (hwaiting : w.waiting ≠ []) : w.running ≠ [] := by
  intro hnil
  have hslots := hw.slots_eq hwaiting
  simp only [slots, inFlight, hphase, hnil, List.length_nil] at hslots
  omega

theorem Accounts.reported_perm {limit : Nat} {jobs : List α} {w : Workload α}
    (hw : Accounts limit jobs w) (hlimit : 0 < limit) (hrest : w.AtRest) :
    w.reported.Perm jobs := by
  obtain ⟨hphase, hnil⟩ := hrest
  obtain ⟨count, hwaiting, hperm⟩ := hw.started
  have hempty : w.waiting = [] := Decidable.of_not_not fun hne =>
    hw.running_ne_nil hlimit hphase hne hnil
  rw [hempty, eq_comm, List.drop_eq_nil_iff] at hwaiting
  simp only [inFlight, hphase, hnil, List.append_nil, List.take_of_length_le hwaiting] at hperm
  exact hperm

/-! ## Schedules -/

theorem drain_of_step {schedule : Nat → Nat} {count : Nat} {w next : Workload α}
    (h : w.step (schedule count) = some next) :
    drain schedule count w = drain schedule (count + 1) next := by
  rw [drain]
  split
  · next hstep => rw [Option.some.inj (h.symm.trans hstep)]
  · next hnone => rw [h] at hnone; cases hnone

theorem drain_of_atRest {schedule : Nat → Nat} {count : Nat} {w : Workload α} (h : w.AtRest) :
    drain schedule count w = w := by
  rw [drain]
  split
  · next hstep => rw [step_eq_none_iff.2 h] at hstep; cases hstep
  · rfl

theorem Reaches.trans {first w last : Workload α} (h : first.Reaches w) (h' : w.Reaches last) :
    first.Reaches last := by
  induction h' with
  | refl => exact h
  | step choice _ hstep ih => exact .step choice ih hstep

/-- A schedule leads through states that can be reached, and stops where nothing is left to do. -/
theorem drain_spec (schedule : Nat → Nat) (count : Nat) (w : Workload α) :
    w.Reaches (drain schedule count w) ∧ (drain schedule count w).AtRest := by
  fun_induction drain schedule count w with
  | case1 count w next hstep _ ih =>
      exact ⟨(Reaches.step _ .refl hstep).trans ih.1, ih.2⟩
  | case2 count w hnone => exact ⟨.refl, step_eq_none_iff.1 hnone⟩

/-- The choices that a run makes are the beginning of a schedule. -/
theorem Reaches.exists_choices {first w : Workload α} (h : first.Reaches w) :
    ∃ choices : List Nat, ∀ schedule : Nat → Nat,
      (∀ index, ∀ hindex : index < choices.length, schedule index = choices[index]) →
      drain schedule 0 first = drain schedule choices.length w := by
  induction h with
  | refl => exact ⟨[], fun _ _ => rfl⟩
  | step choice _ hstep ih =>
      obtain ⟨choices, hchoices⟩ := ih
      refine ⟨choices ++ [choice], fun schedule hschedule => ?_⟩
      have hlast : schedule choices.length = choice := by
        rw [hschedule choices.length (by simp), List.getElem_concat_length rfl]
      rw [hchoices schedule fun index hindex => ?_, List.length_append, List.length_singleton]
      · exact drain_of_step (by rw [hlast]; exact hstep)
      · rw [hschedule index (by rw [List.length_append]; omega),
          List.getElem_append_left hindex]

/-- Every run to the end is the run of some schedule. -/
theorem Reaches.exists_schedule {first last : Workload α} (h : first.Reaches last)
    (hrest : last.AtRest) : ∃ schedule, drain schedule 0 first = last := by
  obtain ⟨choices, hchoices⟩ := h.exists_choices
  refine ⟨fun index => choices.getD index 0, ?_⟩
  rw [hchoices _ fun index hindex => ?_, drain_of_atRest hrest]
  rw [List.getD_eq_getElem?_getD, List.getElem?_eq_getElem hindex, Option.getD_some]

theorem order_perm (schedule : Nat → Nat) {limit : Nat} (hlimit : 0 < limit) (jobs : List α) :
    (order schedule limit jobs).Perm jobs := by
  obtain ⟨hreach, hrest⟩ := drain_spec schedule 0 (start limit jobs)
  exact hreach.accounts.reported_perm hlimit hrest

end MediaShelf.Workload
