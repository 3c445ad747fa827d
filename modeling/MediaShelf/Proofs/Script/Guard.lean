import MediaShelf.Proofs.Script.LinePrinting

/-!
# When a guarded line holds

The tests of a line are written in one row, with `;` and `,` mixed as the author likes. Reading
sorts them into two groups, and evaluation goes through a group without asking where its tests
stood. Here both are put together: `GuardedText` is the text of a line with its row of tests,
`TestsPass` says of such a row when it passes, and the main theorem ties the two.

A row is only ever asked which tests it has behind which joiner, so it counts as a set
(`testsPass_congr`). With a test behind `;` it is not even asked what stands behind `,`
(`testsPass_congr_of_all`).
-/

namespace MediaShelf

open Text

/-- The text of a line that is guarded by a first test and a row of others, each behind its
joiner. -/
inductive GuardedText (first : Condition) (others : List (Joiner × Condition)) :
    List Char → Prop where
  | intro {action : Action} {blanks word gap test tail rest : List Char}
      (blank : isBlank blanks = true)
      (keyword : Spells ['I', 'F'] word)
      (blankGap : isBlank gap = true)
      (separated : gap ≠ [])
      (leading : TestText first test)
      (following : JoinedText others tail)
      (body : DoText action rest) :
      GuardedText first others (blanks ++ (word ++ (gap ++ (test ++ (tail ++ rest)))))

/-- Whether a row has a test behind `;`. -/
def HasAll (others : List (Joiner × Condition)) : Prop :=
  ∃ condition, (Joiner.all, condition) ∈ others

/-- When the tests of a line pass. A test behind `;` makes a chain with the first one, and then
nothing else counts. -/
def TestsPass (ctx : NamingContext) (first : Condition) (others : List (Joiner × Condition)) :
    Prop :=
  (HasAll others ∧ first.evaluate ctx = true ∧
      ∀ condition, (Joiner.all, condition) ∈ others → condition.evaluate ctx = true) ∨
    (¬ HasAll others ∧ (first.evaluate ctx = true ∨
      ∃ joiner condition, (joiner, condition) ∈ others ∧ condition.evaluate ctx = true))

variable {first : Condition} {others others' : List (Joiner × Condition)}

/-! ## Rows of tests as sets -/

theorem hasAll_congr
    (h : ∀ condition, (Joiner.all, condition) ∈ others ↔ (Joiner.all, condition) ∈ others') :
    HasAll others ↔ HasAll others' :=
  exists_congr h

theorem testsPass_congr (ctx : NamingContext) (h : ∀ other, other ∈ others ↔ other ∈ others') :
    TestsPass ctx first others ↔ TestsPass ctx first others' := by
  have hall := hasAll_congr fun condition => h (Joiner.all, condition)
  simp only [TestsPass, hall, h]

theorem testsPass_congr_of_all (ctx : NamingContext) (hsome : HasAll others)
    (h : ∀ condition, (Joiner.all, condition) ∈ others ↔ (Joiner.all, condition) ∈ others') :
    TestsPass ctx first others ↔ TestsPass ctx first others' := by
  have hsome' : HasAll others' := (hasAll_congr h).1 hsome
  simp only [TestsPass, hsome, hsome', not_true_eq_false, false_and, or_false, h]

/-! ## Evaluation -/

theorem joinedBy_all_eq_nil_iff : joinedBy .all others = [] ↔ ¬ HasAll others := by
  rw [List.eq_nil_iff_forall_not_mem, HasAll, not_exists]
  simp only [mem_joinedBy_iff]

theorem exists_mem_iff_any (hnone : ¬ HasAll others) {p : Condition → Prop} :
    (∃ joiner condition, (joiner, condition) ∈ others ∧ p condition) ↔
      ∃ condition, (Joiner.any, condition) ∈ others ∧ p condition := by
  constructor
  · rintro ⟨joiner, condition, hmem, hp⟩
    cases joiner with
    | all => exact absurd ⟨condition, hmem⟩ hnone
    | any => exact ⟨condition, hmem, hp⟩
  · rintro ⟨condition, hmem, hp⟩
    exact ⟨.any, condition, hmem, hp⟩

theorem Expression.holds_iff_testsPass (ctx : NamingContext) :
    Expression.holds ⟨some first, joinedBy .all others, joinedBy .any others⟩ ctx = true ↔
      TestsPass ctx first others := by
  by_cases hall : HasAll others
  · have hne : (joinedBy .all others).isEmpty = false := by
      rw [List.isEmpty_eq_false_iff]
      exact fun hnil => joinedBy_all_eq_nil_iff.1 hnil hall
    simp only [holds, hne, Bool.false_eq_true, if_false, Bool.and_eq_true, List.all_eq_true,
      mem_joinedBy_iff, TestsPass, hall, true_and, not_true_eq_false, false_and, or_false]
  · have hnil : (joinedBy .all others).isEmpty = true :=
      List.isEmpty_iff.2 (joinedBy_all_eq_nil_iff.2 hall)
    simp only [holds, hnil, if_true, Bool.or_eq_true, List.any_eq_true, mem_joinedBy_iff,
      TestsPass, hall, false_and, not_false_eq_true, true_and, false_or, exists_mem_iff_any hall]

/-! ## Lines -/

namespace GuardedText

theorem not_blank {text : List Char} (h : GuardedText first others text) :
    isBlank text = false := by
  obtain ⟨-, keyword, -, -, -, -, -⟩ := h
  obtain ⟨c, d, rfl, hc, -⟩ := keyword.eq_pair
  have hletter : isBlankChar c = false := by rcases hc with rfl | rfl <;> decide
  rw [← Bool.not_eq_true, isBlank_append, isBlank_append]
  rintro ⟨-, hword, -⟩
  simp only [isBlank, List.all_cons, hletter, Bool.false_and, Bool.false_eq_true] at hword

theorem exists_lineText {text : List Char} (h : GuardedText first others text) (number : Nat) :
    ∃ line, LineText number line text ∧
      line.expression = ⟨some first, joinedBy .all others, joinedBy .any others⟩ := by
  obtain ⟨blank, keyword, blankGap, separated, leading, following, body⟩ := h
  exact ⟨_, .guarded blank keyword blankGap separated leading following body, rfl⟩

end GuardedText

namespace Line

/-- A guarded text is read as a line with its tests in two groups. -/
theorem exists_parse_guarded {source : List Char}
    (h : GuardedText first others (before commentMark source)) (number : Nat) :
    ∃ line, parse number source = .ok (some line) ∧
      line.expression = ⟨some first, joinedBy .all others, joinedBy .any others⟩ := by
  obtain ⟨line, hline, hexpression⟩ := h.exists_lineText number
  exact ⟨line, parse_eq_some_iff.2 ⟨h.not_blank, hline⟩, hexpression⟩

theorem holds_of_parse_guarded {source : List Char} {number : Nat} {line : Line}
    (h : GuardedText first others (before commentMark source))
    (hread : parse number source = .ok (some line)) (ctx : NamingContext) :
    line.expression.holds ctx = true ↔ TestsPass ctx first others := by
  obtain ⟨line', hread', hexpression⟩ := exists_parse_guarded h number
  obtain rfl : line = line' := by
    rw [hread] at hread'
    exact Option.some.inj (Except.ok.inj hread')
  rw [hexpression, Expression.holds_iff_testsPass]

/-- A guarded text is read as a line, and the line holds when the tests pass that its text has. Two
lines hold alike if they have the same tests behind the same joiners, in whatever order and
however often. With a test behind `;` they do even if they differ in what stands behind `,`. -/
theorem parse_guarded_holds :
    (∀ (number : Nat) (source : List Char) (first : Condition)
        (others : List (Joiner × Condition)), GuardedText first others (before commentMark source) →
      ∃ line, parse number source = .ok (some line) ∧
        ∀ ctx, line.expression.holds ctx = true ↔ TestsPass ctx first others) ∧
      ∀ (number number' : Nat) (source source' : List Char) (first : Condition)
        (others others' : List (Joiner × Condition)) (line line' : Line),
        GuardedText first others (before commentMark source) →
        GuardedText first others' (before commentMark source') →
        parse number source = .ok (some line) → parse number' source' = .ok (some line') →
        ((∀ other, other ∈ others ↔ other ∈ others') ∨
          HasAll others ∧ ∀ condition,
            (Joiner.all, condition) ∈ others ↔ (Joiner.all, condition) ∈ others') →
        ∀ ctx, line.expression.holds ctx = line'.expression.holds ctx := by
  constructor
  · intro number source first others h
    obtain ⟨line, hread, -⟩ := exists_parse_guarded h number
    exact ⟨line, hread, holds_of_parse_guarded h hread⟩
  · intro number number' source source' first others others' line line' h h' hread hread' hsame ctx
    rw [Bool.eq_iff_iff, holds_of_parse_guarded h hread, holds_of_parse_guarded h' hread']
    rcases hsame with hmem | ⟨hsome, hall⟩
    · exact testsPass_congr ctx hmem
    · exact testsPass_congr_of_all ctx hsome hall

/-- A row with a chain and a test behind `,` in the middle of it. -/
def chainTests : List (Joiner × Condition) :=
  [(.all, ⟨.groupId, "5"⟩), (.any, ⟨.episodeKind, "S"⟩), (.all, ⟨.fileVersion, ">1"⟩)]

/-- The same chain the other way round, with one test twice and nothing behind `,`. -/
def turnedTests : List (Joiner × Condition) :=
  [(.all, ⟨.fileVersion, ">1"⟩), (.all, ⟨.groupId, "5"⟩), (.all, ⟨.fileVersion, ">1"⟩)]

/-- A way to write the chain, with a comment behind it. -/
def chainSource : List Char :=
  " if a(42) ; G (5),h(S);f(>1) DO FAIL // a second version".toList

/-- A way to write the other one. -/
def turnedSource : List Char :=
  "IF A(42);F(>1);G(5);F(>1)do FAIL".toList

theorem testText_show {letter : Char} (h : letter = 'A' ∨ letter = 'a') :
    TestText ⟨.showId, "42"⟩ [letter, '(', '4', '2', ')'] :=
  @TestText.intro .showId letter [] ['4', '2'] h rfl (by decide)

theorem guardedText_chainSource :
    GuardedText ⟨.showId, "42"⟩ chainTests (before commentMark chainSource) := by
  have hgroup : TestText ⟨.groupId, "5"⟩ ['G', ' ', '(', '5', ')'] :=
    @TestText.intro .groupId 'G' [' '] ['5'] (Or.inl rfl) (by decide) (by decide)
  have hkind : TestText ⟨.episodeKind, "S"⟩ ['h', '(', 'S', ')'] :=
    @TestText.intro .episodeKind 'h' [] ['S'] (Or.inr rfl) rfl (by decide)
  have hversion : TestText ⟨.fileVersion, ">1"⟩ ['f', '(', '>', '1', ')'] :=
    @TestText.intro .fileVersion 'f' [] ['>', '1'] (Or.inr rfl) rfl (by decide)
  have hblank : isBlank [] = true := rfl
  have hspace : isBlank [' '] = true := by decide
  have hrow : JoinedText chainTests " ; G (5),h(S);f(>1)".toList :=
    .cons hspace hspace hgroup (.cons hblank hblank hkind (.cons hblank hblank hversion .nil))
  have hword : Spells ['I', 'F'] ['i', 'f'] := by rw [Spells]; decide
  have hbody : DoText .fail " DO FAIL ".toList :=
    @DoText.intro [' '] ['D', 'O'] " FAIL ".toList hspace rfl (Or.inr ⟨' ', _, rfl, hspace⟩)
  exact .intro hspace hword hspace (List.cons_ne_nil ' ' []) (testText_show (Or.inr rfl)) hrow hbody

theorem guardedText_turnedSource :
    GuardedText ⟨.showId, "42"⟩ turnedTests (before commentMark turnedSource) := by
  have hblank : isBlank [] = true := rfl
  have hspace : isBlank [' '] = true := by decide
  have hrow : JoinedText turnedTests ";F(>1);G(5);F(>1)".toList :=
    joinedText_writtenTests (by decide)
  have hword : Spells ['I', 'F'] ['I', 'F'] := rfl
  have hkeyword : Spells ['D', 'O'] ['d', 'o'] := by rw [Spells]; decide
  have hbody : DoText .fail "do FAIL".toList :=
    @DoText.intro [] ['d', 'o'] " FAIL".toList hblank hkeyword (Or.inr ⟨' ', _, rfl, hspace⟩)
  exact .intro hblank hword hspace (List.cons_ne_nil ' ' []) (testText_show (Or.inl rfl)) hrow hbody

theorem parse_guarded_holds_chain :
    ∃ line turned, parse 1 chainSource = .ok (some line) ∧
      parse 2 turnedSource = .ok (some turned) ∧
      (∀ ctx, line.expression.holds ctx = true ↔ TestsPass ctx ⟨.showId, "42"⟩ chainTests) ∧
      ∀ ctx, line.expression.holds ctx = turned.expression.holds ctx := by
  obtain ⟨line, hline, hpass⟩ := parse_guarded_holds.1 1 _ _ _ guardedText_chainSource
  obtain ⟨turned, hturned, -⟩ := parse_guarded_holds.1 2 _ _ _ guardedText_turnedSource
  have hall : ∀ condition, (Joiner.all, condition) ∈ chainTests ↔
      (Joiner.all, condition) ∈ turnedTests := by
    intro condition
    simp only [chainTests, turnedTests, List.mem_cons, List.not_mem_nil, or_false]
    grind
  have hsome : HasAll chainTests := ⟨⟨.groupId, "5"⟩, by decide⟩
  exact ⟨line, turned, hline, hturned, hpass,
    parse_guarded_holds.2 1 2 _ _ _ _ _ line turned guardedText_chainSource
      guardedText_turnedSource hline hturned (Or.inr ⟨hsome, hall⟩)⟩

end Line

end MediaShelf
