import MediaShelf.Proofs.Script.Extension
import MediaShelf.Proofs.Script.LineGrammar
import MediaShelf.Proofs.Text.Rows

/-!
# Scripts row by row

Compiling a script reads each of its rows on its own. What a row says depends on no other row, and
its number is carried through the reading without being looked at (`parse_add`). So compiling
commutes with everything that keeps rows apart: scripts can be put together from texts of whole
rows, and the ends of rows may be of either kind.

Running a script is a fold over the lines that does not look at their numbers at all
(`applyLines_moved`). So only the rows with an effect count. A row that is no line, one that is
malformed, one with an ignored action, and one that does not hold for a file all leave the draft as
it is, and a blank text in their place does the same.
-/

namespace MediaShelf

namespace Line

/-- A line further down in a script. -/
def moved (line : Line) (count : Nat) : Line :=
  { line with number := line.number + count }

@[simp] theorem moved_expression (line : Line) (count : Nat) :
    (line.moved count).expression = line.expression := rfl

@[simp] theorem moved_action (line : Line) (count : Nat) :
    (line.moved count).action = line.action := rfl

theorem parseContent_add (number count : Nat) (text : List Char) :
    parseContent (number + count) text = (parseContent number text).map (·.moved count) := by
  unfold parseContent
  split
  · split <;> rfl
  · rfl

/-- The number of a row is only passed on. -/
theorem parse_add (number count : Nat) (row : List Char) :
    parse (number + count) row = (parse number row).map (Option.map (·.moved count)) := by
  simp only [parse, parseContent_add]
  split
  · rfl
  · cases parseContent number (Text.before commentMark row) <;> rfl

theorem number_of_parse {number : Nat} {row : List Char} {line : Line}
    (h : parse number row = .ok (some line)) : line.number = number := by
  obtain ⟨-, htext⟩ := parse_eq_some_iff.1 h
  generalize Text.before commentMark row = text at htext
  cases htext <;> rfl

theorem parse_of_isBlank {row : List Char} (h : Text.isBlank row = true) (number : Nat) :
    parse number row = .ok none := by
  obtain ⟨rest, hsplit, -⟩ := (Text.isBefore_before commentMark row).split
  rw [hsplit, Text.isBlank_append] at h
  rw [parse, if_pos h.1]

/-- A row that has no effect on a file: it is malformed, it is no line, its action is ignored, or it
does not hold. -/
inductive IsIdle (ctx : NamingContext) (number : Nat) (row : List Char) : Prop where
  | malformed {fault : LineFault} (read : parse number row = .error fault)
  | empty (read : parse number row = .ok none)
  | ignored {line : Line} {text : List Char} (read : parse number row = .ok (some line))
      (action : line.action = .ignored text)
  | unmet {line : Line} (read : parse number row = .ok (some line))
      (condition : line.expression.holds ctx = false)

end Line

namespace Script

/-! ## Lines of rows -/

theorem linesFrom_append (number : Nat) (a b : List (List Char)) :
    linesFrom number (a ++ b) = linesFrom number a ++ linesFrom (number + a.length) b := by
  induction a generalizing number with
  | nil => rfl
  | cons row rest ih =>
      have hlength : number + (rest.length + 1) = number + 1 + rest.length := by omega
      rw [List.cons_append, linesFrom, linesFrom, ih, List.length_cons, hlength]
      split <;> rfl

theorem linesFrom_add (number count : Nat) (rows : List (List Char)) :
    linesFrom (number + count) rows = (linesFrom number rows).map (·.moved count) := by
  induction rows generalizing number with
  | nil => rfl
  | cons row rest ih =>
      have hnext : number + count + 1 = number + 1 + count := by omega
      rw [linesFrom, linesFrom, Line.parse_add, hnext, ih]
      cases Line.parse number row with
      | error fault => rfl
      | ok found => cases found <;> rfl

/-- The lines are those that single rows are read as, under the numbers of these rows. -/
theorem mem_linesFrom_iff {number : Nat} {rows : List (List Char)} {line : Line} :
    line ∈ linesFrom number rows ↔ ∃ index row, rows[index]? = some row ∧
      Line.parse (number + index) row = .ok (some line) := by
  induction rows generalizing number with
  | nil => simp [linesFrom]
  | cons row rest ih =>
      have hsplit : line ∈ linesFrom number (row :: rest) ↔
          Line.parse number row = .ok (some line) ∨ line ∈ linesFrom (number + 1) rest := by
        rw [linesFrom]
        split
        · next first hfirst => simp [hfirst, eq_comm]
        · next hnone => exact (or_iff_right fun hline => hnone line hline).symm
      rw [hsplit, ih]
      constructor
      · rintro (hline | ⟨index, other, hother, hline⟩)
        · exact ⟨0, row, rfl, hline⟩
        · refine ⟨index + 1, other, hother, ?_⟩
          rw [Nat.add_comm index 1, ← Nat.add_assoc]
          exact hline
      · rintro ⟨index, other, hother, hline⟩
        cases index with
        | zero =>
            rw [List.getElem?_cons_zero, Option.some.injEq] at hother
            exact Or.inl (hother ▸ hline)
        | succ index =>
            refine Or.inr ⟨index, other, hother, ?_⟩
            rw [Nat.add_assoc, Nat.add_comm 1 index]
            exact hline

theorem le_number_of_mem_linesFrom {number : Nat} {rows : List (List Char)} {line : Line}
    (h : line ∈ linesFrom number rows) : number ≤ line.number := by
  obtain ⟨index, row, -, hline⟩ := mem_linesFrom_iff.1 h
  rw [Line.number_of_parse hline]
  exact Nat.le_add_right number index

theorem pairwise_number_linesFrom (number : Nat) (rows : List (List Char)) :
    (linesFrom number rows).Pairwise fun x y => x.number < y.number := by
  induction rows generalizing number with
  | nil => exact List.Pairwise.nil
  | cons row rest ih =>
      rw [linesFrom]
      split
      · next line hline =>
          refine List.Pairwise.cons (fun other hother => ?_) (ih (number + 1))
          rw [Line.number_of_parse hline]
          exact le_number_of_mem_linesFrom hother
      · exact ih (number + 1)

theorem linesOf_append {a : List Char} (h : Text.EndsRow a) (b : List Char) :
    linesOf (a ++ b) = linesOf a ++ (linesOf b).map (·.moved (a.count '\n')) := by
  rw [linesOf, Text.rows_append h, linesFrom_append, Text.length_rows h, linesFrom_add]
  rfl

theorem linesOf_eq_nil_of_isBlank {text : List Char} (h : Text.isBlank text = true) :
    linesOf text = [] := by
  rw [List.eq_nil_iff_forall_not_mem]
  intro line hline
  obtain ⟨index, row, hrow, hparse⟩ := mem_linesFrom_iff.1 hline
  have hblank := Text.isBlank_of_mem_rows h (List.mem_of_getElem? hrow)
  rw [Line.parse_of_isBlank hblank] at hparse
  cases hparse

/-! ## Runs -/

variable {ctx : NamingContext} {options : NamingOptions}

theorem applyLines_append (draft : Draft) (a b : List Line) :
    applyLines ctx options draft (a ++ b) =
      (applyLines ctx options draft a).bind fun draft => applyLines ctx options draft b := by
  induction a generalizing draft with
  | nil => rfl
  | cons line rest ih =>
      rw [List.cons_append, applyLines, applyLines]
      by_cases hholds : line.expression.holds ctx = true
      · rw [if_pos hholds, if_pos hholds]
        cases draft.apply line.action ctx options with
        | error error => rfl
        | ok next => exact ih next
      · rw [if_neg hholds, if_neg hholds]
        exact ih draft

/-- No action asks for the number of its line. -/
theorem applyLines_moved (draft : Draft) (lines : List Line) (count : Nat) :
    applyLines ctx options draft (lines.map (·.moved count)) =
      applyLines ctx options draft lines := by
  induction lines generalizing draft with
  | nil => rfl
  | cons line rest ih =>
      simp only [List.map_cons, applyLines, Line.moved_expression, Line.moved_action, ih]

theorem applyLines_linesOf_append {a b : List Char} (h : b = [] ∨ Text.EndsRow a) (draft : Draft) :
    applyLines ctx options draft (linesOf (a ++ b)) =
      (applyLines ctx options draft (linesOf a)).bind fun draft =>
        applyLines ctx options draft (linesOf b) := by
  rcases h with rfl | h
  · rw [List.append_nil]
    cases applyLines ctx options draft (linesOf a) <;> rfl
  · rw [linesOf_append h, applyLines_append]
    simp only [applyLines_moved]

theorem applyLines_of_isIdle {number : Nat} {row : List Char} (h : Line.IsIdle ctx number row)
    (draft : Draft) : applyLines ctx options draft (linesFrom number [row]) = .ok draft := by
  cases h with
  | malformed hread =>
      rw [linesFrom, hread]
      rfl
  | empty hread =>
      rw [linesFrom, hread]
      rfl
  | ignored hread haction =>
      simp only [linesFrom, hread, applyLines, haction, Draft.apply, ite_self]
  | unmet hread hcondition =>
      simp only [linesFrom, hread, applyLines, hcondition, Bool.false_eq_true, if_false]

/-- A row without an effect leaves every draft as it is, and so does a blank text in its place. -/
theorem applyLines_overwriteRow {text row blanks : List Char} {index : Nat}
    (hrow : (Text.rows text)[index]? = some row) (hidle : Line.IsIdle ctx (index + 1) row)
    (hblank : Text.isBlank blanks = true) (draft : Draft) :
    applyLines ctx options draft (linesOf (Text.overwriteRow index blanks text)) =
      applyLines ctx options draft (linesOf text) := by
  rw [Text.rows, List.getElem?_map, Option.map_eq_some_iff] at hrow
  obtain ⟨full, hfull, rfl⟩ := hrow
  obtain ⟨before, behind, rfl, hbefore, hindex, hrow, hend⟩ := Text.exists_around hfull
  rw [Text.overwriteRow_append hbefore hindex hrow hend]
  -- The row and what stands in its place come between the same texts, and neither adds anything.
  have hold (draft : Draft) : applyLines ctx options draft (linesOf full) = .ok draft := by
    rw [linesOf, Text.rows, hrow, List.map_singleton, ← applyLines_moved _ _ index,
      ← linesFrom_add, Nat.add_comm]
    exact applyLines_of_isIdle hidle draft
  have hnew (draft : Draft) :
      applyLines ctx options draft (linesOf (blanks ++ Text.rowEnd full)) = .ok draft := by
    rw [linesOf_eq_nil_of_isBlank (Text.isBlank_append.2 ⟨hblank, Text.isBlank_rowEnd full⟩)]
    rfl
  have hsplit : behind = [] ∨ Text.EndsRow full := hend.imp_right Or.inr
  have hsplit' : behind = [] ∨ Text.EndsRow (blanks ++ Text.rowEnd full) := by
    refine hend.imp_right fun hlast => ?_
    have hlast := Text.getLast?_rowEnd hlast
    refine Text.EndsRow.append_left blanks (Or.inr hlast) fun hnil => ?_
    rw [hnil] at hlast
    cases hlast
  simp only [applyLines_linesOf_append (Or.inr hbefore), applyLines_linesOf_append hsplit,
    applyLines_linesOf_append hsplit', hold, hnew]

theorem run_congr {a b : Script}
    (h : ∀ draft, applyLines ctx options draft a.lines = applyLines ctx options draft b.lines) :
    a.run ctx options = b.run ctx options := by
  rw [run, run, h]

/-- A script is compiled row by row. Texts of whole rows can be put together, with the numbers of
the later lines moved on; the lines are numbered upwards, and they are what the rows with their
numbers are read as; it does not matter which of the two ends the rows have; and a row without an
effect on a file can as well be blank when that file is named. -/
theorem compile_row_by_row (name strategy : String) :
    (∀ a b : String, Text.EndsRow a.toList →
      (compile name strategy (a ++ b)).lines =
        (compile name strategy a).lines ++
          (compile name strategy b).lines.map (·.moved (a.toList.count '\n'))) ∧
    (∀ text : String,
      ((compile name strategy text).lines.Pairwise fun x y => x.number < y.number) ∧
      ∀ line, line ∈ (compile name strategy text).lines ↔ ∃ index row,
        line.number = index + 1 ∧ (Text.rows text.toList)[index]? = some row ∧
        Line.parse line.number row = .ok (some line)) ∧
    (∀ text : String, '\r' ∉ text.toList →
      (compile name strategy
        (String.ofList (Text.replaceAll ['\n'] ['\r', '\n'] text.toList))).lines =
        (compile name strategy text).lines) ∧
    ∀ (text : String) (index : Nat) (row blanks : List Char) (ctx : NamingContext),
      (Text.rows text.toList)[index]? = some row → Line.IsIdle ctx (index + 1) row →
      Text.isBlank blanks = true → ∀ options,
        (compile name strategy
          (String.ofList (Text.overwriteRow index blanks text.toList))).run ctx options =
          (compile name strategy text).run ctx options := by
  refine ⟨fun a b ha => ?_, fun text => ⟨pairwise_number_linesFrom 1 _, fun line => ?_⟩,
    fun text hreturns => ?_, fun text index row blanks ctx hrow hidle hblank options => ?_⟩
  · simp only [compile, String.toList_append, linesOf_append ha]
  · simp only [compile, linesOf, mem_linesFrom_iff]
    refine exists_congr fun index => exists_congr fun row => ?_
    constructor
    · rintro ⟨hrow, hread⟩
      have hnumber : line.number = index + 1 := by
        rw [Line.number_of_parse hread, Nat.add_comm]
      refine ⟨hnumber, hrow, ?_⟩
      rw [hnumber, Nat.add_comm]
      exact hread
    · rintro ⟨hnumber, hrow, hread⟩
      rw [hnumber, Nat.add_comm] at hread
      exact ⟨hrow, hread⟩
  · simp only [compile, String.toList_ofList, linesOf, Text.rows_returns hreturns]
  · refine run_congr fun draft => ?_
    simp only [compile, String.toList_ofList]
    exact applyLines_overwriteRow hrow hidle hblank draft

/-- A script whose first row does not hold for the sample. -/
def guardedText : String := "IF A(2) DO FAIL\nDO ADD 'x'"

/-- The row in the middle of the longer script is no line, but it counts. -/
theorem compile_row_by_row_guarded :
    Text.EndsRow "DO ADD 'x'\n".toList ∧
      (compile "guarded" "legacy" "DO ADD 'x'\nADD 'y'\nDO FAIL").lines =
        [⟨1, {}, .add ['x']⟩, ⟨3, {}, .fail⟩] ∧
      '\r' ∉ guardedText.toList ∧
      (compile "guarded" "legacy" "IF A(2) DO FAIL\r\nDO ADD 'x'").lines =
        (compile "guarded" "legacy" guardedText).lines ∧
      (Text.rows guardedText.toList)[0]? = some "IF A(2) DO FAIL".toList ∧
      Line.IsIdle sampleContext 1 "IF A(2) DO FAIL".toList ∧ Text.isBlank [' '] = true ∧
      (compile "guarded" "legacy" " \nDO ADD 'x'").run sampleContext {} = .ok "x.mkv" := by
  obtain ⟨happend, -, hreturns, hblank⟩ := compile_row_by_row "guarded" "legacy"
  have hends : Text.EndsRow "DO ADD 'x'\n".toList := by decide
  have hfree : '\r' ∉ guardedText.toList := by decide
  have hrow : (Text.rows guardedText.toList)[0]? = some "IF A(2) DO FAIL".toList := by
    decide +kernel
  have hidle : Line.IsIdle sampleContext 1 "IF A(2) DO FAIL".toList := by
    have hread : Line.parse 1 "IF A(2) DO FAIL".toList =
        .ok (some ⟨1, ⟨some ⟨.showId, "2"⟩, [], []⟩, .fail⟩) := by decide +kernel
    exact .unmet hread (by decide +kernel)
  have hlines : (compile "guarded" "legacy" "DO ADD 'x'\n").lines ++
      (compile "guarded" "legacy" "ADD 'y'\nDO FAIL").lines.map (·.moved 1) =
        [⟨1, {}, .add ['x']⟩, ⟨3, {}, .fail⟩] := by decide +kernel
  have hrun : (compile "guarded" "legacy" guardedText).run sampleContext {} = .ok "x.mkv" := by
    decide +kernel
  refine ⟨hends, ?_, hfree, hreturns guardedText hfree, hrow, hidle, by decide, ?_⟩
  · exact (happend "DO ADD 'x'\n" "ADD 'y'\nDO FAIL" hends).trans hlines
  · exact (hblank guardedText 0 _ [' '] sampleContext hrow hidle (by decide) {}).trans hrun

end Script

end MediaShelf
