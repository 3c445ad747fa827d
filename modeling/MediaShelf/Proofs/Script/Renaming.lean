import MediaShelf.Proofs.Script.Extension
import MediaShelf.Proofs.Script.Outcome

/-!
# Scripts on renamed files

A script that has named a file gives the same name again when it is run on the file under that name.
Two facts make up the argument. The present name of the file is seen nowhere but in the finished
name, and there through its extension alone: no test asks for it, and the token for the original
name stands for the name of the release (`judge_renamed`, `value_renamed`). And an extension that
has been carried over once is carried over as it is (`withExtension_carriedOver`).

The second fact says nothing about a name that has lost its extension on the way. The second run
would then carry over what stands behind some dot of the name itself, or find no extension at all.
-/

namespace MediaShelf

/-- What a script sees when the file has another name. -/
def NamingContext.renamed (ctx : NamingContext) (name : String) : NamingContext :=
  { ctx with file := ctx.file.renamed name }

variable {ctx : NamingContext} {options : NamingOptions}

/-! ## Where the name has no say -/

theorem Token.value_renamed (token : Token) (name : String) :
    token.value (ctx.renamed name) options = token.value ctx options := by
  cases token <;> rfl

theorem Token.isPresent_renamed (token : Token) (name : String) :
    token.isPresent (ctx.renamed name) = token.isPresent ctx := by
  cases token <;> rfl

theorem Condition.judge_renamed (condition : Condition) (name : String) :
    condition.judge (ctx.renamed name) = condition.judge ctx := by
  obtain ⟨test, argument⟩ := condition
  cases test <;> rfl

theorem Condition.evaluate_renamed (condition : Condition) (name : String) :
    condition.evaluate (ctx.renamed name) = condition.evaluate ctx := by
  rw [evaluate, judge_renamed, evaluate]

theorem Expression.holds_renamed (expression : Expression) (name : String) :
    expression.holds (ctx.renamed name) = expression.holds ctx := by
  simp only [holds, Condition.evaluate_renamed]

theorem substitute_renamed (template : List Char) (name : String) :
    substitute (ctx.renamed name) options template = substitute ctx options template := by
  have hpiece : ∀ piece : TemplatePiece,
      piece.value (ctx.renamed name) options = piece.value ctx options := by
    intro piece
    cases piece with
    | literal c => rfl
    | token t => rw [TemplatePiece.value, Token.value_renamed, TemplatePiece.value]
  simp only [substitute, hpiece]

theorem Action.edit_renamed (action : Action) (name : String) (draft : List Char) :
    action.edit (ctx.renamed name) options draft = action.edit ctx options draft := by
  cases action with
  | add template => rw [edit, substitute_renamed, edit]
  | replace target replacement => rfl
  | fail => rfl
  | ignored text => rfl

namespace Script

theorem givesUp_renamed {lines : List Line} (name : String) :
    GivesUp (ctx.renamed name) lines ↔ GivesUp ctx lines := by
  simp only [GivesUp, Expression.holds_renamed]

theorem edited_renamed (lines : List Line) (name : String) (draft : List Char) :
    edited (ctx.renamed name) options draft lines = edited ctx options draft lines := by
  simp only [edited, Expression.holds_renamed, Action.edit_renamed]

end Script

/-! ## Carrying an extension over twice -/

theorem isControlChar_plain (c : Char) :
    Text.isControlChar (standIn (Draft.restoreApostrophe c)) = Text.isControlChar c := by
  rw [isControlChar_standIn, Draft.isControlChar_restoreApostrophe]

theorem restoreApostrophe_standIn {c : Char} (h : c ≠ '\x60') :
    Draft.restoreApostrophe (standIn c) = standIn c := by
  rw [Draft.restoreApostrophe, if_neg]
  by_cases hmem : c ∈ standIns.map (·.1)
  · obtain ⟨-, -, -, hbacktick, -⟩ := standIn_of_mem hmem
    exact hbacktick
  · rwa [standIn_of_not_mem hmem]

theorem restoreApostrophe_ne (c : Char) : Draft.restoreApostrophe c ≠ '\x60' := by
  unfold Draft.restoreApostrophe
  split
  · decide
  · assumption

namespace Draft

theorem plainForm_plainForm (cs : List Char) : plainForm (plainForm cs) = plainForm cs := by
  have hshown : shownChars (plainForm cs) = plainForm cs := by
    rw [plainForm_eq, shownChars, List.filter_eq_self]
    intro c hc
    obtain ⟨a, ha, rfl⟩ := List.mem_map.1 hc
    rw [Function.comp_apply, isControlChar_plain]
    exact (List.mem_filter.1 ha).2
  have htwice : (standIn ∘ restoreApostrophe) ∘ (standIn ∘ restoreApostrophe) =
      standIn ∘ restoreApostrophe := by
    funext c
    rw [Function.comp_apply, Function.comp_apply, Function.comp_apply,
      restoreApostrophe_standIn (restoreApostrophe_ne c), standIn_standIn]
  rw [plainForm_eq (plainForm cs), hshown, plainForm_eq, List.map_map, htwice]

variable {extension : String}

theorem dot_not_mem_carriedOver (h : '.' ∉ extension.toList) :
    '.' ∉ (carriedOver extension).toList := by
  rw [toList_carriedOver h]
  exact dot_not_mem_plainForm h

theorem carriedOver_carriedOver (h : '.' ∉ extension.toList) :
    carriedOver (carriedOver extension) = carriedOver extension := by
  rw [← String.toList_inj, toList_carriedOver (dot_not_mem_carriedOver h), toList_carriedOver h,
    plainForm_plainForm]

theorem withExtension_carriedOver (draft : Draft) (h : '.' ∉ extension.toList) :
    draft.withExtension (carriedOver extension).toList = draft.withExtension extension.toList := by
  rw [withExtension_eq (dot_not_mem_carriedOver h), withExtension_eq h, toList_carriedOver h,
    plainForm_plainForm]

end Draft

/-! ## The second run -/

theorem Script.run_renamed_of_kept {script : Script} {name extension : String}
    (hpresent : ctx.file.extension? = some extension) (hrun : script.run ctx options = .ok name)
    (hkept : (ctx.file.renamed name).extension? = some (carriedOver extension)) :
    script.run (ctx.renamed name) options = .ok name := by
  have hdot := (MediaFile.extension?_spec hpresent).1
  have houtcome := outcome_run script ctx options
  rw [hrun] at houtcome
  cases houtcome with
  | finished hlinked hpasses hnamed hextension =>
      obtain rfl := Option.some.inj (hpresent.symm.trans hextension)
      -- Everything but the extension is the same in the second run, and the extension is carried
      -- over once more.
      have hagain : ∀ other, (ctx.renamed other).episodes ≠ [] := fun _ => hlinked
      rw [run_of_linked (hagain _), if_neg (mt (givesUp_renamed _).1 hpasses), edited_renamed,
        Draft.finish_eq_ok_iff]
      refine ⟨hnamed, carriedOver extension, hkept, ?_⟩
      rw [Draft.withExtension_carriedOver _ hdot, Draft.withExtension, safeName,
        String.toList_ofList]

/-- The name of a file is seen by no test and no token, and an extension is carried over twice as it
is carried over once. So a script that has named a file gives the same name again for the renamed
file, if the extension was kept. -/
theorem run_renamed (ctx : NamingContext) (options : NamingOptions) :
    (∀ name, (∀ condition : Condition, condition.judge (ctx.renamed name) = condition.judge ctx) ∧
      ∀ token : Token, token.value (ctx.renamed name) options = token.value ctx options ∧
        token.isPresent (ctx.renamed name) = token.isPresent ctx) ∧
    ∀ extension, ctx.file.extension? = some extension →
      carriedOver (carriedOver extension) = carriedOver extension ∧
      ∀ (script : Script) (name : String), script.run ctx options = .ok name →
        (ctx.file.renamed name).extension? = some (carriedOver extension) →
        script.run (ctx.renamed name) options = .ok name := by
  refine ⟨fun name => ⟨fun condition => condition.judge_renamed name, fun token =>
    ⟨token.value_renamed name, token.isPresent_renamed name⟩⟩, fun extension hpresent => ?_⟩
  refine ⟨Draft.carriedOver_carriedOver (MediaFile.extension?_spec hpresent).1, ?_⟩
  intro script name hrun hkept
  exact Script.run_renamed_of_kept hpresent hrun hkept

/-- A file with an extension that is not safe. -/
def unsafeContext : NamingContext :=
  sampleContext.renamed "old name.m\x60p?"

/-- A script that asks for the show, and whose name ends with an ellipsis. -/
def continued : Script :=
  Script.compile "continued" "script" "IF A(1); I(fid) DO ADD '%fid: Wait...'"

/-- The second run finds the extension as the first one has left it. -/
theorem run_renamed_unsafe :
    unsafeContext.file.extension? = some "m\x60p?" ∧
      continued.run unsafeContext {} = .ok "1։ Wait….m'p？" ∧
      (unsafeContext.file.renamed "1։ Wait….m'p？").extension? =
        some (carriedOver "m\x60p?") ∧
      continued.run (unsafeContext.renamed "1։ Wait….m'p？") {} = .ok "1։ Wait….m'p？" := by
  have hpresent : unsafeContext.file.extension? = some "m\x60p?" := by decide +kernel
  have hrun : continued.run unsafeContext {} = .ok "1։ Wait….m'p？" := by decide +kernel
  have hkept : (unsafeContext.file.renamed "1։ Wait….m'p？").extension? =
      some (carriedOver "m\x60p?") := by decide +kernel
  exact ⟨hpresent, hrun, hkept,
    ((run_renamed unsafeContext {}).2 _ hpresent).2 continued _ hrun hkept⟩

end MediaShelf
