import MediaShelf.CommandLine.Run
import MediaShelf.Proofs.Library.Scripted

/-!
# What a run works from

A session is held with a machine: the variables of its environment, the contents of its files, and a
filesystem that gives the same answers all the time. Holding one session and going on with its result
is holding both (`ask_bind`), so a run can be taken apart into the sessions it is put together from.

Everything a run asks for before it works on a file is in `Loads`: settings, perhaps a script,
a snapshot and the files that are selected from it. A run gets to its files exactly if all of these
are there (`ask_prepare_eq_ok_iff`). What it works with then does not depend on the task, except that
a task may be given a script of its own.
-/

namespace MediaShelf.CommandLine

/-- What a session is held with. -/
structure Machine where
  environment : Environment
  content : Path → FileContent
  filesystem : Filesystem

namespace Machine

/-- Holds a session. -/
def ask {α : Type} (machine : Machine) (session : Session α) : α :=
  session.run machine.content machine.filesystem

variable (machine : Machine)

theorem ask_pure {α : Type} (a : α) : machine.ask (pure a) = a := rfl

theorem ask_readPath (path : Path) : machine.ask (Session.readPath path) = machine.content path :=
  rfl

theorem ask_inspectPaths (paths : List Path) :
    machine.ask (Session.inspectPaths paths) = machine.filesystem := rfl

theorem ask_bind {α β : Type} (session : Session α) (next : α → Session β) :
    machine.ask (session >>= next) = machine.ask (next (machine.ask session)) := by
  induction session with
  | done a => rfl
  | read path resume ih => exact ih (machine.content path)
  | inspect paths resume ih => exact ih machine.filesystem

/-- What a run on the machine leaves behind, if it has an end. -/
def outcome (schedule : Nat → Nat) (invocation : Invocation) : Option Outcome :=
  machine.ask (invocation.run machine.environment schedule)

/-- The script that settings name is this one; settings need not name any. -/
inductive HasScript (settings : Settings) : Option Script → Prop where
  | none (unnamed : settings.rename.script = none) : HasScript settings none
  | some {path : Path} {text : String} (named : settings.rename.script = some path)
      (readable : machine.content path = .text text) :
      HasScript settings (some (Scripted.compile settings.rename.scriptName text))

/-- A run finds what it works from, and the files it works on. -/
structure Loads (invocation : Invocation) (materials : Materials) (files : List MediaFile) :
    Prop where
  settings :
    machine.ask (Settings.load invocation.settings machine.environment) = .ok materials.settings
  script : machine.HasScript (withScript materials.settings invocation.script) materials.script
  snapshot : (documentOf (machine.content invocation.snapshot)).bind Snapshot.ofJson? =
    some materials.snapshot
  files : select materials.snapshot invocation.file = .ok files

theorem ofScript_withScript (settings : Settings) (path : Option Path) (script : Option Script) :
    Library.ofScript (withScript settings path) script = Library.ofScript settings script := by
  cases path <;> rfl

theorem exists_of_select_eq_error {snapshot : Snapshot} {file : Option UInt64} {failure : Failure}
    (h : select snapshot file = .error failure) : ∃ id, failure = .unknownFile id := by
  unfold select at h
  split at h
  · next id =>
      split at h
      · cases h
      · exact ⟨id, (Except.error.inj h).symm⟩
  · cases h

theorem ask_loadSnapshot (path : Path) :
    machine.ask (loadSnapshot path) =
      match (documentOf (machine.content path)).bind Snapshot.ofJson? with
      | some snapshot => .ok snapshot
      | none => .error (.snapshot path) := by
  rw [loadSnapshot, ask_bind, ask_readPath]
  cases (documentOf (machine.content path)).bind Snapshot.ofJson? <;> rfl

variable {machine}

theorem HasScript.ask_load {settings : Settings} {script : Option Script}
    (h : machine.HasScript settings script) :
    machine.ask (Library.load settings) = .ok (Library.ofScript settings script) := by
  cases h with
  | none unnamed =>
      rw [Library.load, unnamed]
      rfl
  | some named readable =>
      rw [Library.load, named]
      simp only [Scripted.load, ask_bind, ask_readPath, readable]
      rfl

theorem hasScript_of_ask_load {settings : Settings} {library : Library}
    (h : machine.ask (Library.load settings) = .ok library) :
    ∃ script, machine.HasScript settings script ∧ library = Library.ofScript settings script := by
  rw [Library.load] at h
  split at h
  · next path hpath =>
      simp only [Scripted.load, ask_bind, ask_readPath, ask_pure] at h
      split at h
      · next s hcontent =>
          cases h
          exact ⟨_, .some hpath hcontent, rfl⟩
      · cases h
      · cases h
  · next hpath =>
      cases h
      exact ⟨none, .none hpath, rfl⟩

theorem Loads.ask_prepare {invocation : Invocation} {materials : Materials}
    {files : List MediaFile} (h : machine.Loads invocation materials files) :
    machine.ask (invocation.prepare machine.environment) =
      .ok ⟨materials.library, materials.snapshot, files⟩ := by
  rw [Invocation.prepare, ask_bind, h.settings]
  simp only [Invocation.prepareWith, ask_bind, h.script.ask_load, ask_loadSnapshot, h.snapshot,
    ask_pure, h.files, ofScript_withScript]
  rfl

/-- A run that does not find everything it works from fails for a reason of its own. -/
theorem ask_prepare_of_not_loads {invocation : Invocation}
    (h : ∀ materials files, ¬ machine.Loads invocation materials files) :
    ∃ failure, machine.ask (invocation.prepare machine.environment) = .error failure ∧
      ∀ count, failure ≠ .files count := by
  rw [Invocation.prepare, ask_bind]
  cases hsettings : machine.ask (Settings.load invocation.settings machine.environment) with
  | error error => exact ⟨.settings error, rfl, by simp⟩
  | ok settings =>
      simp only [Invocation.prepareWith, ask_bind]
      cases hlibrary : machine.ask (Library.load (withScript settings invocation.script)) with
      | error error => exact ⟨.library error, rfl, by simp⟩
      | ok library =>
          obtain ⟨script, hscript, -⟩ := hasScript_of_ask_load hlibrary
          simp only [ask_bind, ask_loadSnapshot]
          cases hsnapshot :
              (documentOf (machine.content invocation.snapshot)).bind Snapshot.ofJson? with
          | none => exact ⟨.snapshot invocation.snapshot, rfl, by simp⟩
          | some snapshot =>
              cases hfiles : select snapshot invocation.file with
              | error failure =>
                  refine ⟨failure, by simp only [hfiles]; rfl, ?_⟩
                  obtain ⟨id, rfl⟩ := exists_of_select_eq_error hfiles
                  simp
              | ok files =>
                  exact absurd ⟨hsettings, hscript, hsnapshot, hfiles⟩
                    (h ⟨settings, script, snapshot⟩ files)

end Machine

end MediaShelf.CommandLine
