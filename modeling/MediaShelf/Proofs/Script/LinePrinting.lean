import MediaShelf.Proofs.Script.LineGrammar
import Mathlib.Data.List.Infix

/-!
# Printing lines

A line can be written out so that reading gives it back. Not every value of the type has this
property: an argument with a closing parenthesis, a template with an apostrophe or an ignored action
that starts with a keyword would be read as something else. `Line.IsWritable` lists what a line must
not contain, and the main theorem says that the list is exact: reading never gives a line outside of
it, and every line in it can be written, with its further tests in whatever order keeps each group.

What is written is put through the grammar of lines and not through the scanners, so only the
actions have to be read here. They are trimmed twice on their way, once behind `DO` and once before
their keyword is looked for, and a written action stands both (`trim_written`).
-/

namespace MediaShelf

open Text

/-! ## Actions -/

namespace Keyword

theorem exists_text_eq_cons (keyword : Keyword) :
    ∃ c word, keyword.text.toList = c :: word ∧ isBlankChar c = false := by
  cases keyword <;> exact ⟨_, _, rfl, by decide⟩

theorem trimStart_text (keyword : Keyword) (rest : List Char) :
    trimStart (keyword.text.toList ++ rest) = keyword.text.toList ++ rest := by
  obtain ⟨c, word, htext, hc⟩ := keyword.exists_text_eq_cons
  rw [htext, List.cons_append, trimStart_cons hc]

theorem split?_append (keyword : Keyword) {rest : List Char} (h : endsBefore rest = true) :
    split? (keyword.text.toList ++ rest) = some (keyword, rest) := by
  have hread : readOne? keyword (keyword.text.toList ++ rest) = some (keyword, rest) := by
    rw [readOne?, dropWord_append rfl]
    simp only [h, if_true]
  rw [split?]
  simp only [trimStart_text]
  -- No two keywords start with the same letter.
  cases keyword with
  | add => rw [hread, Option.some_or]
  | replace =>
      have hadd : readOne? add (replace.text.toList ++ rest) = none := rfl
      rw [hadd, hread, Option.none_or, Option.some_or]
  | fail =>
      have hadd : readOne? add (fail.text.toList ++ rest) = none := rfl
      have hreplace : readOne? replace (fail.text.toList ++ rest) = none := rfl
      rw [hadd, hreplace, hread, Option.none_or, Option.none_or]

end Keyword

namespace Action

/-- A text between apostrophes. -/
def quoted (cs : List Char) : List Char :=
  '\'' :: (cs ++ ['\''])

/-- An action as it is written. -/
def written : Action → List Char
  | add template => Keyword.add.text.toList ++ ' ' :: quoted template
  | replace target replacement =>
      Keyword.replace.text.toList ++ ' ' :: (quoted target ++ ' ' :: quoted replacement)
  | fail => Keyword.fail.text.toList
  | ignored text => text

/-- An action that can be written: its texts have no apostrophes, and one that is ignored is not
taken for anything else. -/
inductive IsWritable : Action → Prop where
  | add {template : List Char} (plain : '\'' ∉ template) : IsWritable (add template)
  | replace {target replacement : List Char} (plainTarget : '\'' ∉ target)
      (plainReplacement : '\'' ∉ replacement) (nonempty : target ≠ []) :
      IsWritable (replace target replacement)
  | fail : IsWritable fail
  | ignored {text : List Char} (trimmed : trim text = text)
      (idle : Action.parse text = ignored text) : IsWritable (ignored text)

theorem not_mem_dropApostrophes (cs : List Char) : '\'' ∉ dropApostrophes cs := by
  simp [dropApostrophes]

theorem dropApostrophes_eq_self {cs : List Char} (h : '\'' ∉ cs) : dropApostrophes cs = cs :=
  List.filter_eq_self.2 (bne_of_not_mem h)

/-- The quotes are dropped with the apostrophes between them. -/
theorem dropApostrophes_quoted (cs : List Char) :
    dropApostrophes (quoted cs) = dropApostrophes cs := by
  simp [dropApostrophes, quoted, List.filter_append]

theorem trim_quoted (cs : List Char) : trim (' ' :: quoted cs) = quoted cs := by
  have hstart : trimStart (' ' :: quoted cs) = quoted cs :=
    trimStart_cons (c := '\'') (by decide) _
  rw [trim, hstart, quoted, ← List.cons_append, trimEnd_concat (by decide)]

theorem trimStart_quoted (cs rest : List Char) :
    trimStart (' ' :: (quoted cs ++ rest)) = quoted cs ++ rest :=
  trimStart_cons (c := '\'') (by decide) _

theorem trim_append_quoted (keyword : Keyword) (middle cs : List Char) :
    trim (keyword.text.toList ++ (middle ++ quoted cs)) =
      keyword.text.toList ++ (middle ++ quoted cs) := by
  obtain ⟨c, word, htext, hc⟩ := keyword.exists_text_eq_cons
  have hsplit : keyword.text.toList ++ (middle ++ quoted cs) =
      c :: ((word ++ (middle ++ '\'' :: cs)) ++ ['\'']) := by
    simp only [htext, quoted, List.cons_append, List.append_assoc]
  rw [hsplit, trim_eq_self hc (by decide)]

theorem readQuoted?_eq_some_iff {cs inner rest : List Char} :
    readQuoted? cs = some (inner, rest) ↔ '\'' ∉ inner ∧ cs = quoted inner ++ rest := by
  constructor
  · intro h
    unfold readQuoted? at h
    split at h
    · next tail =>
        split at h
        · next behind hdrop =>
            obtain ⟨-, hsplit⟩ := eq_append_of_dropWhile_eq_cons hdrop
            rw [Option.some.injEq, Prod.mk.injEq] at h
            obtain ⟨rfl, rfl⟩ := h
            refine ⟨not_mem_takeWhile '\'' tail, ?_⟩
            rw [quoted, List.cons_append, List.append_assoc, List.singleton_append, ← hsplit]
        · cases h
    · cases h
  · rintro ⟨hplain, rfl⟩
    rw [quoted, List.cons_append, List.append_assoc, readQuoted?, List.singleton_append,
      dropWhile_append_mark hplain, takeWhile_append_mark hplain]
    rfl

theorem readReplacement?_quoted {target replacement : List Char} (htarget : '\'' ∉ target)
    (hreplacement : '\'' ∉ replacement) :
    readReplacement? (' ' :: (quoted target ++ ' ' :: quoted replacement)) =
      some (target, replacement) := by
  have hfirst : readQuoted? (trimStart (' ' :: (quoted target ++ ' ' :: quoted replacement))) =
      some (target, ' ' :: quoted replacement) :=
    readQuoted?_eq_some_iff.2 ⟨htarget, trimStart_quoted target _⟩
  have hsecond : readQuoted? (trimStart (' ' :: (quoted replacement ++ []))) =
      some (replacement, []) :=
    readQuoted?_eq_some_iff.2 ⟨hreplacement, trimStart_quoted replacement []⟩
  rw [List.append_nil] at hsecond
  have hspace : isBlankChar ' ' = true := by decide
  have hend : isBlank [] = true := rfl
  rw [readReplacement?, hfirst]
  simp only [Option.bind_eq_bind, Option.bind_some, hspace, if_true, hsecond, hend]

theorem not_mem_of_readReplacement? {cs target replacement : List Char}
    (h : readReplacement? cs = some (target, replacement)) :
    '\'' ∉ target ∧ '\'' ∉ replacement := by
  rw [readReplacement?] at h
  obtain ⟨⟨first, rest⟩, hfirst, h⟩ := Option.bind_eq_some_iff.1 h
  cases rest with
  | nil => cases h
  | cons c rest =>
      simp only at h
      split at h
      · obtain ⟨⟨second, behind⟩, hsecond, h⟩ := Option.bind_eq_some_iff.1 h
        split at h
        · cases h
          exact ⟨(readQuoted?_eq_some_iff.1 hfirst).1, (readQuoted?_eq_some_iff.1 hsecond).1⟩
        · cases h
      · cases h

theorem parse_trim (text : List Char) : parse (trim text) = parse text := by
  simp only [parse, trim_trim]

/-- Reading gives nothing but actions that can be written. -/
theorem isWritable_parse (text : List Char) : (parse text).IsWritable := by
  have hidle : parse text = ignored (trim text) → (parse text).IsWritable := by
    intro h
    rw [h]
    exact .ignored (trim_trim text) (by rw [parse_trim, h])
  cases hsplit : Keyword.split? (trim text) with
  | none => exact hidle (by simp only [parse, hsplit])
  | some found =>
      obtain ⟨keyword, rest⟩ := found
      cases keyword with
      | add =>
          simp only [parse, hsplit]
          exact .add (not_mem_dropApostrophes _)
      | fail =>
          simp only [parse, hsplit]
          exact .fail
      | replace =>
          cases hread : readReplacement? rest with
          | none => exact hidle (by simp only [parse, hsplit, hread])
          | some texts =>
              obtain ⟨target, replacement⟩ := texts
              obtain ⟨htarget, hreplacement⟩ := not_mem_of_readReplacement? hread
              cases htexts : target.isEmpty with
              | true => exact hidle (by simp only [parse, hsplit, hread, htexts, if_true])
              | false =>
                  simp only [parse, hsplit, hread, htexts, Bool.false_eq_true, if_false]
                  exact .replace htarget hreplacement (by simpa using htexts)

theorem trim_written {action : Action} (h : action.IsWritable) :
    trim action.written = action.written := by
  cases h with
  | @add template => exact trim_append_quoted .add [' '] template
  | @replace target replacement =>
      have hsplit : ' ' :: (quoted target ++ ' ' :: quoted replacement) =
          (' ' :: (quoted target ++ [' '])) ++ quoted replacement := by simp
      rw [written, hsplit]
      exact trim_append_quoted .replace _ replacement
  | fail => rfl
  | ignored trimmed => exact trimmed

theorem parse_add_quoted (cs : List Char) :
    parse (Keyword.add.text.toList ++ ' ' :: quoted cs) = add (dropApostrophes cs) := by
  have htrim : trim (Keyword.add.text.toList ++ ' ' :: quoted cs) =
      Keyword.add.text.toList ++ ' ' :: quoted cs := trim_append_quoted .add [' '] cs
  have hsplit : Keyword.split? (Keyword.add.text.toList ++ ' ' :: quoted cs) =
      some (.add, ' ' :: quoted cs) := Keyword.split?_append .add rfl
  simp only [parse, htrim, hsplit, trim_quoted, dropApostrophes_quoted]

theorem parse_written {action : Action} (h : action.IsWritable) :
    parse action.written = action := by
  have htrim := trim_written h
  cases h with
  | @add template plain => rw [written, parse_add_quoted, dropApostrophes_eq_self plain]
  | @replace target replacement plainTarget plainReplacement nonempty =>
      have hsplit : Keyword.split? (written (replace target replacement)) =
          some (.replace, ' ' :: (quoted target ++ ' ' :: quoted replacement)) :=
        Keyword.split?_append .replace rfl
      have hne : target.isEmpty = false := by simpa using nonempty
      simp only [parse, htrim, hsplit, readReplacement?_quoted plainTarget plainReplacement, hne,
        Bool.false_eq_true, if_false]
  | fail => rfl
  | ignored _ idle => exact idle

end Action

/-! ## Tests -/

theorem testText_text {condition : Condition} (h : ')' ∉ condition.argument.toList) :
    TestText condition condition.text.toList := by
  obtain ⟨test, argument⟩ := condition
  have hnamed : test.letter = test.letter ∨ test.letter = test.letter.toLower := Or.inl rfl
  have hblank : isBlank [] = true := rfl
  have htext := TestText.intro hnamed hblank h
  rw [String.ofList_toList, List.nil_append] at htext
  rw [Condition.text, String.toList_ofList]
  exact htext

theorem TestText.closed {condition : Condition} {text : List Char} (h : TestText condition text) :
    ')' ∉ condition.argument.toList := by
  obtain ⟨-, -, hclosed⟩ := h
  rw [String.toList_ofList]
  exact hclosed

/-- Further tests as they are written. -/
def writtenTests (others : List (Joiner × Condition)) : List Char :=
  others.flatMap fun (joiner, condition) => joiner.mark :: condition.text.toList

theorem joinedText_writtenTests {others : List (Joiner × Condition)}
    (h : ∀ other ∈ others, ')' ∉ other.2.argument.toList) :
    JoinedText others (writtenTests others) := by
  induction others with
  | nil => exact .nil
  | cons other others ih =>
      obtain ⟨hfirst, hrest⟩ := List.forall_mem_cons.1 h
      have hblank : isBlank [] = true := rfl
      exact .cons hblank hblank (testText_text hfirst) (ih hrest)

theorem JoinedText.closed {others : List (Joiner × Condition)} {text : List Char}
    (h : JoinedText others text) : ∀ other ∈ others, ')' ∉ other.2.argument.toList := by
  induction h with
  | nil => simp
  | cons _ _ hfirst _ ih => exact List.forall_mem_cons.2 ⟨hfirst.closed, ih⟩

theorem mem_joinedBy_iff {joiner : Joiner} {others : List (Joiner × Condition)}
    {condition : Condition} :
    condition ∈ joinedBy joiner others ↔ (joiner, condition) ∈ others := by
  simp [joinedBy]

namespace Expression

/-- All conditions of an expression, by group. -/
def conditions (expression : Expression) : List Condition :=
  expression.first.toList ++ expression.all ++ expression.any

theorem mem_conditions_joinedBy {first condition : Condition}
    {others : List (Joiner × Condition)} :
    condition ∈ conditions ⟨some first, joinedBy .all others, joinedBy .any others⟩ ↔
      condition = first ∨ ∃ joiner, (joiner, condition) ∈ others := by
  have hjoiner : (∃ joiner, (joiner, condition) ∈ others) ↔
      (Joiner.all, condition) ∈ others ∨ (Joiner.any, condition) ∈ others := by
    constructor
    · rintro ⟨joiner, hmem⟩
      cases joiner with
      | all => exact Or.inl hmem
      | any => exact Or.inr hmem
    · rintro (hmem | hmem) <;> exact ⟨_, hmem⟩
  simp only [conditions, List.mem_append, Option.mem_toList, Option.some.injEq,
    mem_joinedBy_iff, hjoiner, or_assoc, eq_comm]

end Expression

/-! ## Lines -/

namespace Line

/-- A line that can be written. -/
structure IsWritable (line : Line) : Prop where
  arguments : ∀ condition ∈ line.expression.conditions, ')' ∉ condition.argument.toList
  /-- A line without a first test has no further ones. -/
  grouped : line.expression.first = none → line.expression.all = [] ∧ line.expression.any = []
  action : line.action.IsWritable

/-- A line as it is written, its further tests in a given order. -/
def written (line : Line) (others : List (Joiner × Condition)) : List Char :=
  match line.expression.first with
  | some first =>
    ['I', 'F', ' '] ++ (first.text.toList ++ (writtenTests others ++
      ([' ', 'D', 'O', ' '] ++ line.action.written)))
  | none => ['D', 'O', ' '] ++ line.action.written

theorem before_eq_self {text : List Char} (h : ¬ commentMark <:+: text) :
    before commentMark text = text := by
  obtain ⟨rest, hsplit, hrest⟩ := (isBefore_before commentMark text).split
  rcases hrest with rfl | ⟨behind, rfl⟩
  · rw [List.append_nil] at hsplit
    exact hsplit.symm
  · exact absurd ⟨_, _, by rw [List.append_assoc]; exact hsplit.symm⟩ h

theorem doText_of_parse {action : Action} {text : List Char} (h : Action.parse text = action)
    {blanks : List Char} (hblanks : isBlank blanks = true) :
    DoText action (blanks ++ (['D', 'O'] ++ ' ' :: text)) := by
  have hkeyword : Spells ['D', 'O'] ['D', 'O'] := rfl
  have hbody := DoText.intro hblanks hkeyword (Or.inr ⟨' ', text, rfl, by decide⟩)
  have hgap : isBlank [' '] = true := by decide
  have hspace := trimStart_append hgap text
  rw [List.singleton_append] at hspace
  rw [← parse_trimStart, hspace, parse_trimStart, h] at hbody
  exact hbody

theorem lineText_written {line : Line} (h : line.IsWritable) {others : List (Joiner × Condition)}
    (hall : joinedBy .all others = line.expression.all)
    (hany : joinedBy .any others = line.expression.any) :
    LineText line.number line (line.written others) := by
  obtain ⟨number, ⟨first, all, any⟩, action⟩ := line
  obtain ⟨harguments, hgrouped, haction⟩ := h
  simp only at hall hany hgrouped haction
  subst hall hany
  cases first with
  | none =>
      obtain ⟨hall, hany⟩ := hgrouped rfl
      rw [hall, hany]
      have hblank : isBlank [] = true := rfl
      exact .plain (doText_of_parse (Action.parse_written haction) hblank)
  | some first =>
      have hclosed : ∀ condition, condition = first ∨ (∃ joiner, (joiner, condition) ∈ others) →
          ')' ∉ condition.argument.toList := fun condition hcondition =>
        harguments condition (Expression.mem_conditions_joinedBy.2 hcondition)
      have hfirst := testText_text (hclosed first (Or.inl rfl))
      have hothers : JoinedText others (writtenTests others) :=
        joinedText_writtenTests fun other hother => hclosed other.2 (Or.inr ⟨other.1, hother⟩)
      have hblank : isBlank [] = true := rfl
      have hkeyword : Spells ['I', 'F'] ['I', 'F'] := rfl
      have hgap : isBlank [' '] = true := by decide
      exact .guarded hblank hkeyword hgap (List.cons_ne_nil ' ' []) hfirst hothers
        (doText_of_parse (Action.parse_written haction) hgap)

theorem isWritable_of_lineText {number : Nat} {line : Line} {text : List Char}
    (h : LineText number line text) : line.IsWritable := by
  cases h with
  | plain body =>
      obtain ⟨-, -, -⟩ := body
      exact ⟨by simp [Expression.conditions], fun _ => ⟨rfl, rfl⟩, Action.isWritable_parse _⟩
  | guarded _ _ _ _ leading following body =>
      obtain ⟨-, -, -⟩ := body
      refine ⟨fun condition hcondition => ?_, by simp, Action.isWritable_parse _⟩
      rcases Expression.mem_conditions_joinedBy.1 hcondition with rfl | ⟨joiner, hmem⟩
      · exact leading.closed
      · exact following.closed _ hmem

theorem isBlank_written (line : Line) (others : List (Joiner × Condition)) :
    isBlank (line.written others) = false := by
  rw [written]
  split <;> rfl

/-- Reading a line gives one that can be written, and a line that can be written is read back,
whatever the order in which its two groups of tests are mixed. -/
theorem parse_written_agree :
    (∀ number text line, parse number text = .ok (some line) → line.IsWritable) ∧
      ∀ (line : Line) (others : List (Joiner × Condition)), line.IsWritable →
        joinedBy .all others = line.expression.all →
        joinedBy .any others = line.expression.any →
        ¬ commentMark <:+: line.written others →
        parse line.number (line.written others) = .ok (some line) := by
  constructor
  · intro number text line h
    obtain ⟨-, htext⟩ := parse_eq_some_iff.1 h
    exact isWritable_of_lineText htext
  · intro line others hline hall hany hcomment
    rw [parse_eq_some_iff, before_eq_self hcomment]
    exact ⟨isBlank_written line others, lineText_written hline hall hany⟩

/-- A line with tests of both groups. -/
def mixedLine : Line :=
  ⟨7, ⟨some ⟨.showId, "1"⟩, [⟨.groupId, "2"⟩], [⟨.fileVersion, ">1"⟩, ⟨.episodeKind, "S, U"⟩]⟩,
    .replace [' '] []⟩

/-- Its further tests, with the one that is joined by `;` between the others. -/
def mixedTests : List (Joiner × Condition) :=
  [(.any, ⟨.fileVersion, ">1"⟩), (.all, ⟨.groupId, "2"⟩), (.any, ⟨.episodeKind, "S, U"⟩)]

theorem isWritable_mixedLine : mixedLine.IsWritable :=
  ⟨by decide, by simp [mixedLine], .replace (by decide) (by decide) (by decide)⟩

theorem parse_written_agree_mixed :
    mixedLine.written mixedTests = "IF A(1),F(>1);G(2),H(S, U) DO REPLACE ' ' ''".toList ∧
      ¬ commentMark <:+: mixedLine.written mixedTests ∧
      parse 7 (mixedLine.written mixedTests) = .ok (some mixedLine) ∧ mixedLine.IsWritable := by
  have hcomment : ¬ commentMark <:+: mixedLine.written mixedTests := by decide
  have hread : parse 7 (mixedLine.written mixedTests) = .ok (some mixedLine) :=
    parse_written_agree.2 mixedLine mixedTests isWritable_mixedLine (by decide) (by decide) hcomment
  exact ⟨by decide, hcomment, hread, parse_written_agree.1 7 _ mixedLine hread⟩

end Line

end MediaShelf
