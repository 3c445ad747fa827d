import MediaShelf.Proofs.Script.LinePrinting
import MediaShelf.Proofs.Script.Substitution
import MediaShelf.Proofs.Text.Rows

/-!
# Scripts of literal texts

A script that only adds texts without placeholders makes a name of these texts, one behind the
other. Between a row of such a script and the name there are a number of stages that cut and trim:
rows lose their ends and their comments, actions the blanks around them, templates the blanks in
front of their quotes. The quotes are what stops all of them. They are no blanks, so nothing inside of
them is trimmed, and they go last, together with every apostrophe of the text itself.

What a text must not have is what the stages look for anywhere in a row: a line feed, a comment mark,
and a `%`. Of these the first is no condition of its own here, as no row has one.
-/

namespace MediaShelf

open Text

/-- A row that adds a text. -/
def literalRow (text : String) : List Char :=
  "DO ADD ".toList ++ Action.quoted text.toList

/-- The characters in front of the text of a row. -/
def literalFront : List Char := ['D', 'O', ' ', 'A', 'D', 'D', ' ', '\'']

theorem literalRow_eq (text : String) :
    literalRow text = literalFront ++ (text.toList ++ ['\'']) := rfl

/-! ## Reading a row -/

namespace Line

/-- Without a slash around it, a text has no comment mark that it had not before. -/
theorem commentMark_infix_of_around {front cs back : List Char} (hfront : '/' ∉ front)
    (hback : '/' ∉ back) (h : commentMark <:+: front ++ (cs ++ back)) : commentMark <:+: cs := by
  have hskip : ∀ {skipped rest : List Char}, '/' ∉ skipped →
      commentMark <:+: skipped ++ rest → commentMark <:+: rest := by
    intro skipped rest hskipped hinside
    induction skipped with
    | nil => exact hinside
    | cons c skipped ih =>
        rw [List.mem_cons, not_or] at hskipped
        rw [List.cons_append, List.infix_cons_iff] at hinside
        rcases hinside with hprefix | hinside
        · exact absurd (List.cons_prefix_cons.1 hprefix).1 hskipped.1
        · exact ih hskipped.2 hinside
  have hrest := hskip hfront h
  -- The mark reads the same from behind.
  rw [← List.reverse_infix, List.reverse_append] at hrest
  have hmark : commentMark.reverse = commentMark := rfl
  rw [hmark] at hrest
  rw [← List.reverse_infix, hmark]
  exact hskip (by rwa [List.mem_reverse]) hrest

theorem commentMark_not_infix_literalRow {text : String} (h : ¬ commentMark <:+: text.toList) :
    ¬ commentMark <:+: literalRow text := by
  rw [literalRow_eq]
  exact fun hinside => h (commentMark_infix_of_around (by decide) (by decide) hinside)

theorem parse_literalRow {text : String} (h : ¬ commentMark <:+: text.toList) (number : Nat) :
    parse number (literalRow text) =
      .ok (some ⟨number, {}, .add (Action.dropApostrophes text.toList)⟩) := by
  rw [parse_eq_some_iff, before_eq_self (commentMark_not_infix_literalRow h)]
  refine ⟨rfl, .plain ?_⟩
  have hblank : isBlank [] = true := rfl
  exact doText_of_parse (Action.parse_add_quoted text.toList) hblank

end Line

/-! ## Running the rows -/

namespace Script

variable {ctx : NamingContext} {options : NamingOptions} {texts : List String}

/-- The texts one behind the other, without their apostrophes. -/
def joinedLiterals (texts : List String) : List Char :=
  Action.dropApostrophes (texts.flatMap String.toList)

theorem joinedLiterals_cons (text : String) (rest : List String) :
    joinedLiterals (text :: rest) =
      Action.dropApostrophes text.toList ++ joinedLiterals rest := by
  simp [joinedLiterals, Action.dropApostrophes, List.filter_append]

theorem joinedLiterals_eq_nil_iff :
    joinedLiterals texts = [] ↔ ∀ text ∈ texts, ∀ c ∈ text.toList, c = '\'' := by
  simp only [joinedLiterals, Action.dropApostrophes, List.filter_eq_nil_iff, List.mem_flatMap,
    bne_iff_ne, ne_eq, not_not, forall_exists_index, and_imp]
  exact ⟨fun h text htext c hc => h c text htext hc, fun h c text htext hc => h text htext c hc⟩

/-- A literal row puts its text behind the draft. -/
theorem applyLines_literals (hcomment : ∀ text ∈ texts, ¬ Line.commentMark <:+: text.toList)
    (hplain : ∀ text ∈ texts, '%' ∉ text.toList) (number : Nat) (draft : Draft) :
    applyLines ctx options draft (linesFrom number (texts.map literalRow)) =
      .ok ⟨draft.name ++ joinedLiterals texts⟩ := by
  induction texts generalizing number draft with
  | nil =>
      rw [List.map_nil, linesFrom, applyLines, joinedLiterals, List.flatMap_nil]
      simp [Action.dropApostrophes]
  | cons text rest ih =>
      obtain ⟨hmark, hmarks⟩ := List.forall_mem_cons.1 hcomment
      obtain ⟨hpercent, hpercents⟩ := List.forall_mem_cons.1 hplain
      have hvalue : '%' ∉ Action.dropApostrophes text.toList := fun hmem =>
        hpercent (List.mem_of_mem_filter hmem)
      have hadd : draft.apply (.add (Action.dropApostrophes text.toList)) ctx options =
          .ok ⟨draft.name ++ Action.dropApostrophes text.toList⟩ := by
        rw [Draft.apply, Draft.add,
          Action.dropApostrophes_eq_self (Action.not_mem_dropApostrophes text.toList),
          substitute_of_not_mem ctx options hvalue]
      have hread := Line.parse_literalRow hmark number
      rw [List.map_cons, linesFrom, hread]
      simp only [applyLines, Expression.holds, hadd, if_true, ih hmarks hpercents, List.append_assoc,
        joinedLiterals_cons]

theorem rows_literalRows (h : ∀ text ∈ texts, '\n' ∉ text.toList) :
    rows (ofRows (texts.map literalRow)) = texts.map literalRow := by
  refine rows_ofRows (fun row hrow => ?_) fun row hrow => ?_
  · obtain ⟨text, htext, rfl⟩ := List.mem_map.1 hrow
    have hfront : '\n' ∉ literalFront := by decide
    have hquote : '\n' ∉ ['\''] := by decide
    rw [literalRow_eq, List.mem_append, List.mem_append, not_or, not_or]
    exact ⟨hfront, h text htext, hquote⟩
  · obtain ⟨text, -, rfl⟩ := List.mem_map.1 hrow
    rw [literalRow_eq, ← List.append_assoc, List.getLast?_concat]
    decide

/-- A script whose rows add some texts without line feeds, comment marks and `%` makes a name of
these texts without their apostrophes, with all of their blanks. It fails only if nothing is left of
them. -/
theorem run_literals (ctx : NamingContext) (options : NamingOptions) (name strategy : String)
    (texts : List String) (extension : String) (hlinked : ctx.episodes ≠ [])
    (hextension : ctx.file.extension? = some extension)
    (hfeed : ∀ text ∈ texts, '\n' ∉ text.toList)
    (hcomment : ∀ text ∈ texts, ¬ Line.commentMark <:+: text.toList)
    (hplain : ∀ text ∈ texts, '%' ∉ text.toList) :
    rows (ofRows (texts.map literalRow)) = texts.map literalRow ∧
      ∀ source : String, rows source.toList = texts.map literalRow →
        ((∀ text ∈ texts, ∀ c ∈ text.toList, c = '\'') →
          (compile name strategy source).run ctx options = .error .emptyName) ∧
        ((∃ text ∈ texts, ∃ c ∈ text.toList, c ≠ '\'') →
          (compile name strategy source).run ctx options =
            .ok (safeName (String.ofList
              (((texts.flatMap String.toList).filter (· != '\'') ++ '.' :: extension.toList).map
                Draft.restoreApostrophe)))) := by
  refine ⟨rows_literalRows hfeed, fun source hrows => ?_⟩
  have hrun : (compile name strategy source).run ctx options =
      (Draft.mk (joinedLiterals texts)).finish ctx := by
    rw [run, if_neg (by rwa [List.isEmpty_iff]), compile, linesOf, hrows,
      applyLines_literals hcomment hplain]
    rfl
  rw [hrun]
  constructor
  · intro hnothing
    rw [Draft.finish, joinedLiterals_eq_nil_iff.2 hnothing]
    rfl
  · rintro ⟨text, htext, c, hc, hother⟩
    have hnamed : joinedLiterals texts ≠ [] := fun hnil =>
      hother (joinedLiterals_eq_nil_iff.1 hnil text htext c hc)
    rw [Draft.finish, if_neg (by rwa [List.isEmpty_iff]), hextension, safeName, String.toList_ofList]
    rfl

/-- Texts with blanks on their ends, with apostrophes and with a slash in front of a quote. -/
def literalTexts : List String := ["  it's ", "'", "5 \x60a\x60 /"]

/-- A script of them, whose rows have different ends. -/
def literalSource : String :=
  "DO ADD '  it's '\r\nDO ADD '''\nDO ADD '5 \x60a\x60 /'"

theorem run_literals_blanks :
    sampleContext.episodes ≠ [] ∧ sampleContext.file.extension? = some "mkv" ∧
      (∀ text ∈ literalTexts, '\n' ∉ text.toList) ∧
      (∀ text ∈ literalTexts, ¬ Line.commentMark <:+: text.toList) ∧
      (∀ text ∈ literalTexts, '%' ∉ text.toList) ∧
      rows literalSource.toList = literalTexts.map literalRow ∧
      (compile "literal" "script" literalSource).run sampleContext {} = .ok "  its 5 'a' ⁄.mkv" ∧
      (compile "literal" "script" "DO ADD '''").run sampleContext {} = .error .emptyName := by
  have hlinked : sampleContext.episodes ≠ [] := by decide
  have hextension : sampleContext.file.extension? = some "mkv" := by decide +kernel
  have hfeed : ∀ text ∈ literalTexts, '\n' ∉ text.toList := by decide
  have hcomment : ∀ text ∈ literalTexts, ¬ Line.commentMark <:+: text.toList := by decide
  have hplain : ∀ text ∈ literalTexts, '%' ∉ text.toList := by decide
  have hrows : rows literalSource.toList = literalTexts.map literalRow := by decide +kernel
  have hname : safeName (String.ofList
      (((literalTexts.flatMap String.toList).filter (· != '\'') ++ '.' :: "mkv".toList).map
        Draft.restoreApostrophe)) = "  its 5 'a' ⁄.mkv" := by decide +kernel
  obtain ⟨-, hrun⟩ := run_literals sampleContext {} "literal" "script" literalTexts "mkv" hlinked
    hextension hfeed hcomment hplain
  obtain ⟨-, hempty⟩ := run_literals sampleContext {} "literal" "script" ["'"] "mkv" hlinked
    hextension (by decide) (by decide) (by decide)
  refine ⟨hlinked, hextension, hfeed, hcomment, hplain, hrows, ?_, ?_⟩
  · rw [(hrun literalSource hrows).2 ⟨"  it's ", by decide, ' ', by decide, by decide⟩, hname]
  · exact (hempty "DO ADD '''" (by decide +kernel)).1 (by simp)

end Script

end MediaShelf
