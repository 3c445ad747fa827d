import MediaShelf.Script.Program

/-!
# What a script comes to

A run of a script has one of five results, and which one it is depends on the script only through
the lines that hold. `Outcome` lists the results with the conditions under which they come about, in
terms of these lines alone: there is no draft in it and no order of questions, except that of the
edits that make up the name.

Two things keep a run from being a plain fold over the lines that hold. It stops at the first line
that gives up, and so never edits with the lines behind that one; and it asks each line whether it
holds only when its turn comes. Neither can be seen from outside, because no edit has any say in
whether another line holds (`applyLines_eq`).
-/

namespace MediaShelf

/-- What an action makes of a name. -/
def Action.edit (ctx : NamingContext) (options : NamingOptions) (name : List Char) :
    Action → List Char
  | add template => name ++ substitute ctx options (dropApostrophes template)
  | replace target replacement => Text.replaceAll target replacement name
  | fail => name
  | ignored _ => name

namespace Draft

variable {ctx : NamingContext} {options : NamingOptions}

theorem apply_fail (draft : Draft) : draft.apply .fail ctx options = .error .aborted := rfl

theorem apply_of_ne_fail {action : Action} (h : action ≠ .fail) (draft : Draft) :
    draft.apply action ctx options = .ok ⟨action.edit ctx options draft.name⟩ := by
  cases action with
  | add template => rfl
  | replace target replacement => rfl
  | fail => exact absurd rfl h
  | ignored text => rfl

end Draft

namespace Script

/-! ## The lines that hold -/

/-- One of some lines holds and gives up. -/
def GivesUp (ctx : NamingContext) (lines : List Line) : Prop :=
  ∃ line ∈ lines, line.expression.holds ctx = true ∧ line.action = .fail

instance (ctx : NamingContext) (lines : List Line) : Decidable (GivesUp ctx lines) :=
  inferInstanceAs (Decidable (∃ line ∈ lines, _ ∧ _))

/-- A name after the edits of those of some lines that hold. -/
def edited (ctx : NamingContext) (options : NamingOptions) (name : List Char)
    (lines : List Line) : List Char :=
  (lines.filter (·.expression.holds ctx)).foldl (fun name line => line.action.edit ctx options name)
    name

variable {ctx : NamingContext} {options : NamingOptions}

theorem givesUp_cons_iff {line : Line} {rest : List Line} :
    GivesUp ctx (line :: rest) ↔
      (line.expression.holds ctx = true ∧ line.action = .fail) ∨ GivesUp ctx rest := by
  simp only [GivesUp, List.mem_cons, exists_eq_or_imp]

theorem edited_cons_of_holds {line : Line} (h : line.expression.holds ctx = true)
    (name : List Char) (rest : List Line) :
    edited ctx options name (line :: rest) =
      edited ctx options (line.action.edit ctx options name) rest := by
  simp only [edited, List.filter_cons, if_pos h, List.foldl_cons]

theorem edited_cons_of_not_holds {line : Line} (h : ¬ line.expression.holds ctx = true)
    (name : List Char) (rest : List Line) :
    edited ctx options name (line :: rest) = edited ctx options name rest := by
  simp only [edited, List.filter_cons, if_neg h]

/-- The loop over the lines, without its early end. -/
theorem applyLines_eq (lines : List Line) (draft : Draft) :
    applyLines ctx options draft lines =
      if GivesUp ctx lines then .error .aborted
      else .ok ⟨edited ctx options draft.name lines⟩ := by
  induction lines generalizing draft with
  | nil =>
      have hnone : ¬ GivesUp ctx [] := fun ⟨line, hmem, _⟩ => List.not_mem_nil hmem
      rw [applyLines, if_neg hnone]
      rfl
  | cons line rest ih =>
      rw [applyLines]
      by_cases hholds : line.expression.holds ctx = true
      · rw [if_pos hholds]
        by_cases hfail : line.action = .fail
        · rw [if_pos (givesUp_cons_iff.2 (Or.inl ⟨hholds, hfail⟩)), hfail, Draft.apply_fail]
        · -- The line edits the name and leaves the rest as it is.
          simp only [Draft.apply_of_ne_fail hfail, ih, givesUp_cons_iff, hfail, and_false, false_or,
            edited_cons_of_holds hholds]
      · simp only [hholds, ih, givesUp_cons_iff, Bool.false_eq_true, false_and, false_or, if_false,
          edited_cons_of_not_holds hholds]

/-! ## The result -/

/-- The results of a script. A file without episodes has no name; then a line that gives up decides,
wherever it stands; and then it counts what the lines that hold have put together. -/
inductive Outcome (script : Script) (ctx : NamingContext) (options : NamingOptions) :
    Except ScriptError String → Prop where
  | noEpisodes (unlinked : ctx.episodes = []) : Outcome script ctx options (.error .noEpisodes)
  | aborted (linked : ctx.episodes ≠ []) (fails : GivesUp ctx script.lines) :
      Outcome script ctx options (.error .aborted)
  | emptyName (linked : ctx.episodes ≠ []) (passes : ¬ GivesUp ctx script.lines)
      (empty : edited ctx options [] script.lines = []) :
      Outcome script ctx options (.error .emptyName)
  | missingExtension (linked : ctx.episodes ≠ []) (passes : ¬ GivesUp ctx script.lines)
      (named : edited ctx options [] script.lines ≠ []) (missing : ctx.file.extension? = none) :
      Outcome script ctx options (.error (.missingExtension ctx.file.fileName))
  | finished {extension : String} (linked : ctx.episodes ≠ [])
      (passes : ¬ GivesUp ctx script.lines) (named : edited ctx options [] script.lines ≠ [])
      (present : ctx.file.extension? = some extension) :
      Outcome script ctx options (.ok (safeName (String.ofList
        ((edited ctx options [] script.lines ++ '.' :: extension.toList).map
          Draft.restoreApostrophe))))

variable {script : Script}

theorem run_of_linked (h : ctx.episodes ≠ []) :
    script.run ctx options =
      if GivesUp ctx script.lines then .error .aborted
      else (Draft.mk (edited ctx options [] script.lines)).finish ctx := by
  rw [run, if_neg (by rwa [List.isEmpty_iff]), applyLines_eq]
  by_cases hfails : GivesUp ctx script.lines
  · rw [if_pos hfails, if_pos hfails]
  · rw [if_neg hfails, if_neg hfails]

theorem Outcome.run_eq {result : Except ScriptError String}
    (h : script.Outcome ctx options result) : script.run ctx options = result := by
  cases h with
  | noEpisodes hunlinked => rw [run, if_pos (List.isEmpty_iff.2 hunlinked)]
  | aborted hlinked hfails => rw [run_of_linked hlinked, if_pos hfails]
  | emptyName hlinked hpasses hempty =>
      rw [run_of_linked hlinked, if_neg hpasses, Draft.finish, if_pos (List.isEmpty_iff.2 hempty)]
  | missingExtension hlinked hpasses hnamed hmissing =>
      rw [run_of_linked hlinked, if_neg hpasses, Draft.finish,
        if_neg (by rwa [List.isEmpty_iff]), hmissing]
  | finished hlinked hpasses hnamed hpresent =>
      rw [run_of_linked hlinked, if_neg hpasses, Draft.finish,
        if_neg (by rwa [List.isEmpty_iff]), hpresent, safeName, String.toList_ofList]
      rfl

theorem exists_outcome (script : Script) (ctx : NamingContext) (options : NamingOptions) :
    ∃ result, script.Outcome ctx options result := by
  by_cases hlinked : ctx.episodes = []
  · exact ⟨_, .noEpisodes hlinked⟩
  · by_cases hpasses : GivesUp ctx script.lines
    · exact ⟨_, .aborted hlinked hpasses⟩
    · by_cases hnamed : edited ctx options [] script.lines = []
      · exact ⟨_, .emptyName hlinked hpasses hnamed⟩
      · cases hextension : ctx.file.extension? with
        | none => exact ⟨_, .missingExtension hlinked hpasses hnamed hextension⟩
        | some extension => exact ⟨_, .finished hlinked hpasses hnamed hextension⟩

theorem outcome_run (script : Script) (ctx : NamingContext) (options : NamingOptions) :
    script.Outcome ctx options (script.run ctx options) := by
  obtain ⟨result, hresult⟩ := exists_outcome script ctx options
  rw [hresult.run_eq]
  exact hresult

/-- A run comes to the one result that the lines that hold allow. -/
theorem run_eq_iff_outcome (script : Script) (ctx : NamingContext) (options : NamingOptions)
    (result : Except ScriptError String) :
    script.run ctx options = result ↔ script.Outcome ctx options result := by
  constructor
  · rintro rfl
    exact outcome_run script ctx options
  · exact Outcome.run_eq

end Script

end MediaShelf
