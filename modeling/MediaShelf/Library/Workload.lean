/-!
# Workloads

A workload is a row of jobs of which a bounded number runs at a time. Jobs start in order. When one
ends, it is reported, and only then the next one starts, behind those that are running. Which of the
running jobs ends first is not known beforehand; a schedule is a function that decides it, step by
step, and whatever is true of a workload has to be true for every schedule.
-/

namespace MediaShelf

/-- What a workload does next. -/
inductive Phase (α : Type) where
  /-- It waits for a running job to end. -/
  | awaiting
  /-- It reports a job that has ended. -/
  | reporting (job : α)
  /-- It starts the next job, if one is waiting. -/
  | refilling
deriving DecidableEq

/-- Jobs that wait, that run, and that have been reported. -/
structure Workload (α : Type) where
  /-- The jobs that have not started, in order. -/
  waiting : List α
  /-- The jobs that are running, in the order in which they started. -/
  running : List α
  /-- The jobs that have ended and been reported, in the order in which they were. -/
  reported : List α := []
  phase : Phase α := .awaiting
deriving DecidableEq

namespace Workload

variable {α : Type}

/-- Starts the first jobs of a row, up to a limit. -/
def start (limit : Nat) (jobs : List α) : Workload α where
  waiting := jobs.drop limit
  running := jobs.take limit

/-- Makes one step, unless no job is running. If a job has to end, a choice says which one: it is
counted around the running jobs. -/
def step (choice : Nat) (w : Workload α) : Option (Workload α) :=
  match w.phase with
  | .awaiting =>
    let index := choice % w.running.length
    w.running[index]?.map fun job =>
      { w with running := w.running.eraseIdx index, phase := .reporting job }
  | .reporting job => some { w with reported := w.reported ++ [job], phase := .refilling }
  | .refilling =>
    some { w with
      waiting := w.waiting.drop 1
      running := w.running ++ w.waiting.take 1
      phase := .awaiting }

/-- What a step can be: a running job ends, a job is reported, or the next one starts. -/
theorem step_cases {choice : Nat} {w next : Workload α} (h : w.step choice = some next) :
    (∃ index, ∃ hindex : index < w.running.length, w.phase = .awaiting ∧
      next = { w with
        running := w.running.eraseIdx index, phase := .reporting w.running[index] }) ∨
    (∃ job, w.phase = .reporting job ∧
      next = { w with reported := w.reported ++ [job], phase := .refilling }) ∨
    (w.phase = .refilling ∧ next = { w with
      waiting := w.waiting.drop 1, running := w.running ++ w.waiting.take 1,
      phase := .awaiting }) := by
  unfold step at h
  split at h
  · next hphase =>
      obtain ⟨job, hjob, rfl⟩ := Option.map_eq_some_iff.1 h
      obtain ⟨hindex, rfl⟩ := List.getElem?_eq_some_iff.1 hjob
      exact Or.inl ⟨_, hindex, hphase, rfl⟩
  · next job hphase => exact Or.inr (Or.inl ⟨job, hphase, (Option.some.inj h).symm⟩)
  · next hphase => exact Or.inr (Or.inr ⟨hphase, (Option.some.inj h).symm⟩)

/-- How many steps a workload can still make: three for every job that has not ended, and those
that are due for the one that has. -/
def effort (w : Workload α) : Nat :=
  3 * (w.waiting.length + w.running.length) +
    match w.phase with
    | .awaiting => 0
    | .reporting _ => 2
    | .refilling => 1

theorem effort_step_lt {choice : Nat} {w next : Workload α} (h : w.step choice = some next) :
    next.effort < w.effort := by
  rcases step_cases h with ⟨index, hindex, hphase, rfl⟩ | ⟨job, hphase, rfl⟩ | ⟨hphase, rfl⟩
  · have := List.length_eraseIdx_of_lt hindex
    simp only [effort, hphase]
    omega
  · simp only [effort, hphase]
    omega
  · simp only [effort, hphase, List.length_drop, List.length_append, List.length_take]
    omega

/-- Makes steps as long as there are any, the first of which is the schedule's at `count`. -/
def drain (schedule : Nat → Nat) (count : Nat) (w : Workload α) : Workload α :=
  match h : w.step (schedule count) with
  | some next =>
    have := effort_step_lt h
    drain schedule (count + 1) next
  | none => w
termination_by w.effort

/-- The order in which the jobs of a row are reported. -/
def order (schedule : Nat → Nat) (limit : Nat) (jobs : List α) : List α :=
  (drain schedule 0 (start limit jobs)).reported

end Workload

end MediaShelf
