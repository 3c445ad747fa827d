import MediaShelf.Proofs.Path
import MediaShelf.Proofs.Script.SafeName
import MediaShelf.Script.Program

/-!
# The extension of a new name

A name is finished by putting a dot and the extension of the present name behind the draft, and the
text is made safe as a whole. So the dot in between is a dot like any other. Where the draft ends
with two dots it is the third one, all of them become an ellipsis, and the new name has lost its
extension. The same happens behind five dots or eight, while one dot, or three, do no harm.

Two more drafts lose something, both because control characters are dropped: if nothing is left of
the draft, the name is a hidden one, and if nothing is left of the extension, there is none. These
three are all (`withExtension_splits_iff`).
-/

namespace MediaShelf

/-- An extension as it is carried over: with its apostrophes, and safe. -/
def carriedOver (extension : String) : String :=
  safeName (String.ofList (extension.toList.map Draft.restoreApostrophe))

/-- A file under another name. -/
def MediaFile.renamed (file : MediaFile) (name : String) : MediaFile :=
  { file with fileName := name }

/-- A new name of the file has a stem and keeps the extension. -/
structure KeepsExtension (file : MediaFile) (extension name : String) : Prop where
  extension : (file.renamed name).extension? = some (carriedOver extension)
  stem : ∃ stem, (Path.mk name).stem? = some stem ∧ stem ≠ ""

/-- The dot between a draft and an extension separates them in the finished name too. Control
characters do not count. -/
structure Draft.Separates (draft : Draft) (extension : String) : Prop where
  named : shownChars draft.name ≠ []
  separated : trailingDots (shownChars draft.name) % 3 ≠ 2
  extended : shownChars extension.toList ≠ []

namespace Draft

/-! ## Safe text with its apostrophes restored -/

/-- What a text looks like before its dots collapse. -/
def plainForm (cs : List Char) : List Char :=
  plainChars (cs.map restoreApostrophe)

theorem isControlChar_restoreApostrophe (c : Char) :
    Text.isControlChar (restoreApostrophe c) = Text.isControlChar c := by
  unfold restoreApostrophe
  split
  · next h =>
      rw [h]
      decide
  · rfl

theorem restoreApostrophe_eq_dot_iff {c : Char} : restoreApostrophe c = '.' ↔ c = '.' := by
  unfold restoreApostrophe
  split
  · next h =>
      rw [h]
      decide
  · exact Iff.rfl

theorem plainForm_eq (cs : List Char) :
    plainForm cs = (shownChars cs).map (standIn ∘ restoreApostrophe) := by
  have hcontrol : ((fun c => !Text.isControlChar c) ∘ restoreApostrophe) =
      fun c => !Text.isControlChar c :=
    funext fun c => congrArg not (isControlChar_restoreApostrophe c)
  rw [plainForm, plainChars, shownChars, List.filter_map, List.map_map, hcontrol, shownChars]

theorem plainForm_eq_nil_iff {cs : List Char} : plainForm cs = [] ↔ shownChars cs = [] := by
  rw [plainForm_eq, List.map_eq_nil_iff]

theorem trailingDots_plainForm (cs : List Char) :
    trailingDots (plainForm cs) = trailingDots (shownChars cs) := by
  have hdot : ((· == '.') ∘ (standIn ∘ restoreApostrophe)) = (· == '.') := by
    funext c
    rw [Bool.eq_iff_iff, Function.comp_apply, beq_iff_eq, beq_iff_eq, Function.comp_apply,
      standIn_eq_dot_iff, restoreApostrophe_eq_dot_iff]
  rw [trailingDots, plainForm_eq, ← List.map_reverse, List.takeWhile_map, List.length_map, hdot,
    trailingDots]

theorem dot_not_mem_plainForm {cs : List Char} (h : '.' ∉ cs) : '.' ∉ plainForm cs := by
  intro hmem
  obtain ⟨c, hc, hdot⟩ := List.mem_map.1 (dot_mem_plainChars hmem)
  rw [restoreApostrophe_eq_dot_iff.1 hdot] at hc
  exact h hc

theorem toList_carriedOver {extension : String} (h : '.' ∉ extension.toList) :
    (carriedOver extension).toList = plainForm extension.toList := by
  rw [carriedOver, safeName, String.toList_ofList, String.toList_ofList, safeChars_eq]
  exact collapseDots_eq_self (dot_not_mem_plainForm h)

/-! ## The dot in between -/

theorem withExtension_eq {draft : Draft} {extension : List Char} (h : '.' ∉ extension) :
    draft.withExtension extension =
      collapseDots (plainForm draft.name ++ ['.']) ++ plainForm extension := by
  have hdot : plainChars (['.'].map restoreApostrophe) = ['.'] := by decide
  have hsplit : (draft.name ++ '.' :: extension).map restoreApostrophe =
      draft.name.map restoreApostrophe ++
        (['.'].map restoreApostrophe ++ extension.map restoreApostrophe) := by
    rw [List.map_append, ← List.singleton_append, List.map_append]
  rw [withExtension, safeChars_eq, hsplit, plainChars_append, plainChars_append, hdot,
    ← List.append_assoc]
  exact collapseDots_append (dot_not_mem_plainForm h)

theorem separator_not_mem_withExtension (draft : Draft) (extension : List Char) :
    '/' ∉ draft.withExtension extension := by
  rw [withExtension]
  exact not_mem_safeChars (by decide) (by decide) _

/-- A finished name is a stem, a dot and the extension, unless one of the three is lost. -/
theorem withExtension_splits_iff {draft : Draft} {extension : List Char} (h : '.' ∉ extension) :
    (∃ stem, stem ≠ [] ∧ draft.withExtension extension = stem ++ '.' :: plainForm extension) ↔
      shownChars draft.name ≠ [] ∧ trailingDots (shownChars draft.name) % 3 ≠ 2 := by
  obtain ⟨hstays, hcollapses⟩ := collapseDots_append_dot (plainForm draft.name)
  rw [trailingDots_plainForm] at hstays hcollapses
  rw [withExtension_eq h]
  constructor
  · rintro ⟨stem, hstem, heq⟩
    have hfront := List.append_cancel_right (heq.trans (List.append_cons stem '.' _))
    by_cases hdots : trailingDots (shownChars draft.name) % 3 = 2
    · -- An ellipsis stands where the dot would have to be.
      obtain ⟨front, hellipsis⟩ := hcollapses hdots
      rw [hellipsis] at hfront
      exact absurd (List.append_inj_right' hfront rfl) (by decide)
    · rw [hstays hdots] at hfront
      refine ⟨?_, hdots⟩
      rw [← List.append_cancel_right hfront, Ne, collapseDots_eq_nil_iff, plainForm_eq_nil_iff] at hstem
      exact hstem
  · rintro ⟨hname, hdots⟩
    refine ⟨collapseDots (plainForm draft.name), ?_, ?_⟩
    · rw [Ne, collapseDots_eq_nil_iff, plainForm_eq_nil_iff]
      exact hname
    · rw [hstays hdots, List.append_assoc, List.singleton_append]

/-! ## Finished names -/

theorem finish_eq_ok_iff {draft : Draft} {ctx : NamingContext} {name : String} :
    draft.finish ctx = .ok name ↔
      draft.name ≠ [] ∧ ∃ extension, ctx.file.extension? = some extension ∧
        name = String.ofList (draft.withExtension extension.toList) := by
  rw [finish]
  split
  · next hempty =>
      rw [List.isEmpty_iff] at hempty
      exact iff_of_false (by simp) fun h => h.1 hempty
  · next hne =>
      rw [List.isEmpty_iff] at hne
      split
      · next extension hextension =>
          simp only [hextension, Option.some.injEq, exists_eq_left', Except.ok.injEq]
          exact ⟨fun h => ⟨hne, h.symm⟩, fun h => h.2.symm⟩
      · next hnone =>
          rw [hnone]
          exact iff_of_false (by simp) fun ⟨_, _, h, _⟩ => nomatch h

theorem keepsExtension_iff_separates {file : MediaFile} {extension : String} (draft : Draft)
    (h : '.' ∉ extension.toList) :
    KeepsExtension file extension (String.ofList (draft.withExtension extension.toList)) ↔
      draft.Separates extension := by
  have htext : (file.renamed (String.ofList (draft.withExtension extension.toList))).fileName.toList =
      draft.withExtension extension.toList := String.toList_ofList
  have hname := separator_not_mem_withExtension draft extension.toList
  rw [← htext] at hname
  have hdot := dot_not_mem_plainForm h
  have hempty : carriedOver extension ≠ "" ↔ shownChars extension.toList ≠ [] := by
    rw [Ne, ← String.toList_eq_nil_iff, toList_carriedOver h, plainForm_eq_nil_iff]
  constructor
  · rintro ⟨hextension, -⟩
    obtain ⟨stem, hstem, heq, -, hne⟩ := (MediaFile.extension?_eq_some_iff hname).1 hextension
    rw [htext, toList_carriedOver h] at heq
    obtain ⟨hnamed, hdots⟩ := (withExtension_splits_iff h).1 ⟨stem, hstem, heq⟩
    exact ⟨hnamed, hdots, hempty.1 hne⟩
  · rintro ⟨hnamed, hdots, hextended⟩
    obtain ⟨stem, hstem, heq⟩ := (withExtension_splits_iff h).2 ⟨hnamed, hdots⟩
    rw [← toList_carriedOver h, ← htext] at heq
    rw [← toList_carriedOver h] at hdot
    have hne := hempty.2 hextended
    have hread := MediaFile.stem?_eq_some hname hstem heq hdot hne
    refine ⟨(MediaFile.extension?_eq_some_iff hname).2 ⟨stem, hstem, heq, hdot, hne⟩,
      String.ofList stem, hread, ?_⟩
    rw [Ne, String.ofList_eq_empty_iff]
    exact hstem

end Draft

theorem Script.finish_of_run {script : Script} {ctx : NamingContext} {options : NamingOptions}
    {name : String} (h : script.run ctx options = .ok name) :
    ∃ draft, applyLines ctx options {} script.lines = .ok draft ∧ draft.finish ctx = .ok name := by
  rw [run] at h
  split at h
  · cases h
  · split at h
    · next draft hlines => exact ⟨draft, hlines, h⟩
    · cases h

/-- A finished name, and so every name that a script gives, keeps the extension exactly when the dot
in front of it still separates. -/
theorem finish_keepsExtension_iff (ctx : NamingContext) (name : String) :
    (∀ draft : Draft, draft.finish ctx = .ok name →
      ∃ extension, ctx.file.extension? = some extension ∧
        (KeepsExtension ctx.file extension name ↔ draft.Separates extension)) ∧
    (∀ (script : Script) (options : NamingOptions), script.run ctx options = .ok name →
      ∃ draft extension, Script.applyLines ctx options {} script.lines = .ok draft ∧
        ctx.file.extension? = some extension ∧
        (KeepsExtension ctx.file extension name ↔ draft.Separates extension)) := by
  have hfinish : ∀ draft : Draft, draft.finish ctx = .ok name →
      ∃ extension, ctx.file.extension? = some extension ∧
        (KeepsExtension ctx.file extension name ↔ draft.Separates extension) := by
    intro draft h
    obtain ⟨-, extension, hextension, rfl⟩ := Draft.finish_eq_ok_iff.1 h
    exact ⟨extension, hextension,
      Draft.keepsExtension_iff_separates draft (MediaFile.extension?_spec hextension).1⟩
  refine ⟨hfinish, fun script options h => ?_⟩
  obtain ⟨draft, hlines, hdone⟩ := Script.finish_of_run h
  obtain ⟨extension, hextension, hiff⟩ := hfinish draft hdone
  exact ⟨draft, extension, hlines, hextension, hiff⟩

/-- A file with an episode. -/
def sampleContext : NamingContext where
  file := { id := 1, fileName := "a.mkv", hash := "aa", size := 10 }
  episodes := [{ id := 10, showId := 1, number := 1 }]
  «show» := { id := 1 }

/-- A script whose names end with some dots. -/
def waiting (dots : Nat) : Script :=
  Script.compile "waiting" "script"
    ("DO ADD 'Wait" ++ String.ofList (List.replicate dots '.') ++ "'")

/-- Three dots collapse before the one in front of the extension is reached. -/
theorem keepsExtension_threeDots :
    (Draft.mk "Wait.".toList).finish sampleContext = .ok "Wait..mkv" ∧
      KeepsExtension sampleContext.file "mkv" "Wait..mkv" ∧
      (waiting 3).run sampleContext {} = .ok "Wait….mkv" ∧
      KeepsExtension sampleContext.file "mkv" "Wait….mkv" := by
  have hpresent : sampleContext.file.extension? = some "mkv" := by decide +kernel
  have hfinish : (Draft.mk "Wait.".toList).finish sampleContext = .ok "Wait..mkv" := by
    decide +kernel
  have hrun : (waiting 3).run sampleContext {} = .ok "Wait….mkv" := by decide +kernel
  have hlines : Script.applyLines sampleContext {} {} (waiting 3).lines =
      .ok ⟨"Wait...".toList⟩ := by decide +kernel
  refine ⟨hfinish, ?_, hrun, ?_⟩
  · obtain ⟨extension, hextension, hiff⟩ := (finish_keepsExtension_iff sampleContext _).1 _ hfinish
    cases hpresent.symm.trans hextension
    exact hiff.2 ⟨by decide, by decide, by decide⟩
  · obtain ⟨draft, extension, hdraft, hextension, hiff⟩ :=
      (finish_keepsExtension_iff sampleContext _).2 _ _ hrun
    cases hpresent.symm.trans hextension
    cases hlines.symm.trans hdraft
    exact hiff.2 ⟨by decide, by decide, by decide⟩

/-- Two dots and the one in front of the extension become an ellipsis. -/
theorem not_keepsExtension_twoDots :
    (waiting 2).run sampleContext {} = .ok "Wait…mkv" ∧
      (sampleContext.file.renamed "Wait…mkv").extension? = none ∧
      ¬ ∃ extension, sampleContext.file.extension? = some extension ∧
        KeepsExtension sampleContext.file extension "Wait…mkv" := by
  have hnone : (sampleContext.file.renamed "Wait…mkv").extension? = none := by decide +kernel
  refine ⟨by decide +kernel, hnone, ?_⟩
  rintro ⟨extension, -, hkeeps⟩
  cases hnone.symm.trans hkeeps.extension

end MediaShelf
