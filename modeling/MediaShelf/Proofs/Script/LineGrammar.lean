import MediaShelf.Proofs.Text.Scanning
import MediaShelf.Script.Line

/-!
# The grammar of lines

A line is read by three scanners and a loop that know nothing of each other. Here the language is
written down once, as a grammar over characters, and the main theorem says that reading a line
accepts this language and nothing else: what stands before the comment is either blank, and then no
line, or it has a derivation, and then the line is the one that the derivation gives, or it is
malformed.

The loop over tests is related to the grammar one test at a time (`read?_eq_some_iff`). It stops at
`DO` because a letter `D` with an `O` behind it is no test, whatever follows (`read?_doText`); so it
never takes a keyword for a test, and the derivation has no choice where the tests end.
-/

namespace MediaShelf

open Text

/-! ## The language -/

namespace Joiner

/-- The character of a joiner. -/
def mark : Joiner → Char
  | all => ';'
  | any => ','

end Joiner

/-- A test: its letter in either case, and the argument up to the first closing parenthesis. -/
inductive TestText : Condition → List Char → Prop where
  | intro {test : Test} {letter : Char} {blanks argument : List Char}
      (named : letter = test.letter ∨ letter = test.letter.toLower)
      (blank : isBlank blanks = true)
      (closed : ')' ∉ argument) :
      TestText ⟨test, String.ofList argument⟩
        (letter :: (blanks ++ '(' :: (argument ++ [')'])))

/-- Tests with a joiner in front of each. -/
inductive JoinedText : List (Joiner × Condition) → List Char → Prop where
  | nil : JoinedText [] []
  | cons {joiner : Joiner} {condition : Condition} {others : List (Joiner × Condition)}
      {before behind test tail : List Char}
      (blankBefore : isBlank before = true)
      (blankBehind : isBlank behind = true)
      (first : TestText condition test)
      (rest : JoinedText others tail) :
      JoinedText ((joiner, condition) :: others)
        (before ++ joiner.mark :: (behind ++ (test ++ tail)))

/-- The keyword `DO`, which a blank or the end separates from its action. -/
inductive DoText : Action → List Char → Prop where
  | intro {blanks word action : List Char}
      (blank : isBlank blanks = true)
      (keyword : Spells ['D', 'O'] word)
      (separated : action = [] ∨ ∃ c rest, action = c :: rest ∧ isBlankChar c = true) :
      DoText (Action.parse action) (blanks ++ (word ++ action))

/-- The conditions with a joiner, in order. -/
def joinedBy (joiner : Joiner) (others : List (Joiner × Condition)) : List Condition :=
  (others.filter (·.1 = joiner)).map (·.2)

/-- A line: an action, which tests may guard. -/
inductive LineText (number : Nat) : Line → List Char → Prop where
  | plain {action : Action} {text : List Char} (body : DoText action text) :
      LineText number ⟨number, ⟨none, [], []⟩, action⟩ text
  | guarded {first : Condition} {others : List (Joiner × Condition)} {action : Action}
      {blanks word gap test tail rest : List Char}
      (blank : isBlank blanks = true)
      (keyword : Spells ['I', 'F'] word)
      (blankGap : isBlank gap = true)
      (separated : gap ≠ [])
      (leading : TestText first test)
      (following : JoinedText others tail)
      (body : DoText action rest) :
      LineText number
        ⟨number, ⟨some first, joinedBy .all others, joinedBy .any others⟩, action⟩
        (blanks ++ (word ++ (gap ++ (test ++ (tail ++ rest)))))

/-! ## Letters -/

theorem Test.ofLetter?_eq_some_iff {c : Char} {test : Test} :
    Test.ofLetter? c = some test ↔ c = test.letter ∨ c = test.letter.toLower := by
  constructor
  · intro h
    have hletter := List.find?_some h
    exact eq_or_eq_toLower_of_toUpper (beq_iff_eq.1 hletter).symm
  · rintro (rfl | rfl) <;> cases test <;> decide

theorem Test.isAsciiLetter_of_ofLetter? {c : Char} {test : Test}
    (h : Test.ofLetter? c = some test) : isAsciiLetter c = true := by
  rcases Test.ofLetter?_eq_some_iff.1 h with rfl | rfl <;> cases test <;> decide

theorem not_blank_of_isAsciiLetter {c : Char} (h : isAsciiLetter c = true) :
    isBlankChar c = false := by
  simp only [isAsciiLetter, Bool.or_eq_true, Bool.and_eq_true, decide_eq_true_eq] at h
  have hrange : (97 ≤ c.toNat ∧ c.toNat ≤ 122) ∨ (65 ≤ c.toNat ∧ c.toNat ≤ 90) := h
  rw [← Bool.not_eq_true]
  simp only [isBlankChar, Bool.or_eq_true, Bool.and_eq_true, decide_eq_true_eq, beq_iff_eq]
  omega

namespace WrittenTest

/-! ## One test as it is written -/

/-- The characters of a joiner, if there is one. -/
def joinerText : Option Joiner → List Char
  | some joiner => [joiner.mark]
  | none => []

/-- A test as it is written, with any letter, and with or without a joiner. -/
inductive WrittenText : WrittenTest → List Char → Prop where
  | intro {joiner : Option Joiner} {letter : Char} {before behind blanks argument : List Char}
      (blankBefore : isBlank before = true)
      (blankBehind : isBlank behind = true)
      (isLetter : isAsciiLetter letter = true)
      (blank : isBlank blanks = true)
      (closed : ')' ∉ argument) :
      WrittenText ⟨joiner, letter, argument⟩ (before ++ (joinerText joiner ++ (behind ++
        letter :: (blanks ++ '(' :: (argument ++ [')'])))))

theorem readArgument?_eq_some_iff {cs argument rest : List Char} :
    readArgument? cs = some (argument, rest) ↔
      ')' ∉ argument ∧ cs = '(' :: (argument ++ ')' :: rest) := by
  constructor
  · intro h
    unfold readArgument? at h
    split at h
    · next tail =>
        split at h
        · next c behind hdrop =>
            obtain ⟨hc, hsplit⟩ := eq_append_of_dropWhile_eq_cons hdrop
            obtain rfl : c = ')' := by simpa using hc
            rw [Option.some.injEq, Prod.mk.injEq] at h
            obtain ⟨rfl, rfl⟩ := h
            exact ⟨not_mem_takeWhile ')' tail, by rw [← hsplit]⟩
        · cases h
    · cases h
  · rintro ⟨hclosed, rfl⟩
    rw [readArgument?, dropWhile_append_mark hclosed, takeWhile_append_mark hclosed]

theorem readLetter?_eq_some_iff {joiner : Option Joiner} {cs rest : List Char}
    {written : WrittenTest} :
    readLetter? joiner cs = some (written, rest) ↔
      ∃ letter blanks argument, written = ⟨joiner, letter, argument⟩ ∧
        isAsciiLetter letter = true ∧ isBlank blanks = true ∧ ')' ∉ argument ∧
        cs = letter :: (blanks ++ '(' :: (argument ++ ')' :: rest)) := by
  constructor
  · intro h
    cases cs with
    | nil => cases h
    | cons c cs =>
        rw [readLetter?] at h
        split at h
        · next hletter =>
            obtain ⟨⟨argument, behind⟩, hread, heq⟩ := Option.map_eq_some_iff.1 h
            rw [Prod.mk.injEq] at heq
            obtain ⟨rfl, rfl⟩ := heq
            obtain ⟨hclosed, htrim⟩ := readArgument?_eq_some_iff.1 hread
            obtain ⟨blanks, hblank, hsplit⟩ := exists_blanks_append_trimStart cs
            exact ⟨c, blanks, argument, rfl, hletter, hblank, hclosed, by rw [← htrim, ← hsplit]⟩
        · cases h
  · rintro ⟨letter, blanks, argument, rfl, hletter, hblank, hclosed, rfl⟩
    rw [readLetter?, if_pos hletter, trimStart_append hblank, trimStart_cons (by decide),
      readArgument?_eq_some_iff.2 ⟨hclosed, rfl⟩]
    rfl

theorem readJoiner_mark (joiner : Joiner) (rest : List Char) :
    readJoiner (joiner.mark :: rest) = (some joiner, rest) := by
  cases joiner <;> rfl

theorem readJoiner_of_isAsciiLetter {c : Char} (h : isAsciiLetter c = true)
    (rest : List Char) : readJoiner (c :: rest) = (none, c :: rest) := by
  unfold readJoiner
  split
  · next heq =>
      rw [(List.cons.inj heq).1] at h
      cases h
  · next heq =>
      rw [(List.cons.inj heq).1] at h
      cases h
  · rfl

theorem eq_append_of_readJoiner (cs : List Char) :
    cs = joinerText (readJoiner cs).1 ++ (readJoiner cs).2 := by
  unfold readJoiner
  split <;> rfl

theorem not_blank_mark (joiner : Joiner) : isBlankChar joiner.mark = false := by
  cases joiner <;> decide

/-- Reading a test takes exactly a test off the front of a text. -/
theorem read?_eq_some_iff {cs rest : List Char} {written : WrittenTest} :
    read? cs = some (written, rest) ↔ ∃ text, WrittenText written text ∧ cs = text ++ rest := by
  constructor
  · intro h
    obtain ⟨letter, blanks, argument, rfl, hletter, hblank, hclosed, htrim⟩ :=
      readLetter?_eq_some_iff.1 h
    obtain ⟨before, hbefore, hsplit⟩ := exists_blanks_append_trimStart cs
    obtain ⟨behind, hbehind, hsplit'⟩ :=
      exists_blanks_append_trimStart (readJoiner (trimStart cs)).2
    refine ⟨_, .intro hbefore hbehind hletter hblank hclosed, ?_⟩
    simp only [List.append_assoc, List.cons_append, List.nil_append]
    rw [← htrim, ← hsplit', ← eq_append_of_readJoiner, ← hsplit]
  · rintro ⟨_, ⟨hbefore, hbehind, hletter, hblank, hclosed⟩, rfl⟩
    next joiner letter before behind blanks argument =>
    simp only [List.append_assoc, List.cons_append, List.nil_append]
    have hlast : readLetter? joiner
        (letter :: (blanks ++ '(' :: (argument ++ ')' :: rest))) =
        some (⟨joiner, letter, argument⟩, rest) :=
      readLetter?_eq_some_iff.2 ⟨letter, blanks, argument, rfl, hletter, hblank, hclosed, rfl⟩
    have htrim := trimStart_cons (not_blank_of_isAsciiLetter hletter)
    rw [read?, trimStart_append hbefore]
    cases joiner with
    | none =>
        rw [joinerText, List.nil_append, trimStart_append hbehind, htrim,
          readJoiner_of_isAsciiLetter hletter]
        simp only [htrim, hlast]
    | some joiner =>
        rw [joinerText, List.singleton_append, trimStart_cons (not_blank_mark joiner),
          readJoiner_mark]
        simp only [trimStart_append hbehind, htrim, hlast]

theorem readAll_of_some {cs rest : List Char} {written : WrittenTest}
    (h : read? cs = some (written, rest)) :
    readAll cs = (written :: (readAll rest).1, (readAll rest).2) := by
  rw [readAll]
  split
  · next hread =>
      rw [h, Option.some.injEq, Prod.mk.injEq] at hread
      rw [hread.1, hread.2]
  · next hnone => rw [h] at hnone; cases hnone

theorem readAll_of_none {cs : List Char} (h : read? cs = none) : readAll cs = ([], cs) := by
  rw [readAll]
  split
  · next hread => rw [h] at hread; cases hread
  · rfl

/-! ## Tests of the grammar -/

/-- A test of the grammar, written behind blanks and perhaps a joiner. -/
theorem exists_writtenText {condition : Condition} {text : List Char}
    (h : TestText condition text) :
    ∃ letter argument, Test.ofLetter? letter = some condition.test ∧
      String.ofList argument = condition.argument ∧
      ∀ (joiner : Option Joiner) (before behind : List Char), isBlank before = true →
        isBlank behind = true → WrittenText ⟨joiner, letter, argument⟩
          (before ++ (joinerText joiner ++ (behind ++ text))) := by
  cases h with
  | @intro test letter blanks argument hnamed hblank hclosed =>
      have hletter := Test.ofLetter?_eq_some_iff.2 hnamed
      exact ⟨letter, argument, hletter, rfl, fun joiner before behind hbefore hbehind =>
        .intro hbefore hbehind (Test.isAsciiLetter_of_ofLetter? hletter) hblank hclosed⟩

theorem exists_testText {written : WrittenTest} {text : List Char} {test : Test}
    (h : WrittenText written text) (hletter : Test.ofLetter? written.letter = some test) :
    ∃ before behind inner, isBlank before = true ∧ isBlank behind = true ∧
      TestText ⟨test, String.ofList written.argument⟩ inner ∧
      text = before ++ (joinerText written.joiner ++ (behind ++ inner)) := by
  cases h with
  | @intro joiner letter before behind blanks argument hbefore hbehind _ hblank hclosed =>
      exact ⟨before, behind, _, hbefore, hbehind,
        .intro (Test.ofLetter?_eq_some_iff.1 hletter) hblank hclosed, rfl⟩

end WrittenTest

open WrittenTest

/-! ## Joined tests -/

namespace Expression

/-- An expression with a first test, and with further ones behind those that it has. -/
def extended (first : Condition) (all any : List Condition)
    (others : List (Joiner × Condition)) : Expression :=
  ⟨some first, all ++ joinedBy .all others, any ++ joinedBy .any others⟩

theorem extended_nil (first : Condition) (all any : List Condition) :
    extended first all any [] = ⟨some first, all, any⟩ := by
  simp [extended, joinedBy]

theorem add_eq_ok_iff {expression result : Expression} {written : WrittenTest} :
    expression.add written = .ok result ↔ ∃ test, Test.ofLetter? written.letter = some test ∧
      expression.join written.joiner ⟨test, String.ofList written.argument⟩ = .ok result := by
  rw [add]
  cases Test.ofLetter? written.letter with
  | some test => simp
  | none => simp

theorem join_some (first condition : Condition) (all any : List Condition) (joiner : Joiner) :
    join ⟨some first, all, any⟩ (some joiner) condition =
      .ok (extended first all any [(joiner, condition)]) := by
  cases joiner <;> simp [join, extended, joinedBy]

theorem addAll_cons_eq_ok_iff {expression result : Expression} {written : WrittenTest}
    {tests : List WrittenTest} :
    expression.addAll (written :: tests) = .ok result ↔
      ∃ middle, expression.add written = .ok middle ∧ middle.addAll tests = .ok result := by
  rw [addAll]
  cases expression.add written with
  | ok middle => simp
  | error fault => simp

/-- Once there is a first test, every later one has to have a joiner. -/
theorem exists_joiner_of_add {first : Condition} {all any : List Condition}
    {written : WrittenTest} {result : Expression}
    (h : add ⟨some first, all, any⟩ written = .ok result) :
    ∃ joiner test, written.joiner = some joiner ∧
      Test.ofLetter? written.letter = some test ∧
      result = extended first all any [(joiner, ⟨test, String.ofList written.argument⟩)] := by
  obtain ⟨test, hletter, hjoin⟩ := add_eq_ok_iff.1 h
  cases hjoiner : written.joiner with
  | none =>
      rw [hjoiner] at hjoin
      cases hjoin
  | some joiner =>
      rw [hjoiner, join_some, Except.ok.injEq] at hjoin
      exact ⟨joiner, test, rfl, hletter, hjoin.symm⟩

end Expression

/-- Whatever the loop reads and joins behind a first test is a sequence of joined tests. -/
theorem exists_joinedText {cs rest : List Char} {tests : List WrittenTest} {first : Condition}
    {all any : List Condition} {result : Expression} (hread : readAll cs = (tests, rest))
    (hadd : Expression.addAll ⟨some first, all, any⟩ tests = .ok result) :
    ∃ others text, JoinedText others text ∧ cs = text ++ rest ∧
      result = Expression.extended first all any others := by
  induction tests generalizing cs all any with
  | nil =>
      rw [Expression.addAll, Except.ok.injEq] at hadd
      refine ⟨[], [], .nil, ?_, by rw [Expression.extended_nil, hadd]⟩
      cases hnext : read? cs with
      | none =>
          rw [readAll_of_none hnext, Prod.mk.injEq] at hread
          exact hread.2
      | some next =>
          rw [readAll_of_some hnext, Prod.mk.injEq] at hread
          cases hread.1
  | cons written tests ih =>
      cases hnext : read? cs with
      | none =>
          rw [readAll_of_none hnext, Prod.mk.injEq] at hread
          cases hread.1
      | some next =>
          obtain ⟨head, behind⟩ := next
          rw [readAll_of_some hnext, Prod.mk.injEq, List.cons.injEq] at hread
          obtain ⟨⟨rfl, htests⟩, hrest⟩ := hread
          obtain ⟨middle, hhead, htail⟩ := Expression.addAll_cons_eq_ok_iff.1 hadd
          obtain ⟨joiner, test, hjoiner, hletter, rfl⟩ :=
            Expression.exists_joiner_of_add hhead
          obtain ⟨text, htext, rfl⟩ := read?_eq_some_iff.1 hnext
          obtain ⟨before, gap, inner, hbefore, hgap, hinner, rfl⟩ :=
            exists_testText htext hletter
          obtain ⟨others, tail, htailText, rfl, rfl⟩ :=
            ih (Prod.ext htests hrest) htail
          refine ⟨(joiner, _) :: others, _, .cons hbefore hgap hinner htailText, ?_, ?_⟩
          · rw [hjoiner]
            simp only [joinerText, List.append_assoc, List.cons_append, List.nil_append]
          · simp only [Expression.extended, joinedBy, List.append_assoc, ← List.map_append,
              ← List.filter_append, List.singleton_append]

/-- Joined tests are read and joined, up to a text that no test starts. -/
theorem exists_readAll {others : List (Joiner × Condition)} {text rest : List Char}
    (h : JoinedText others text) (hrest : read? rest = none) :
    ∃ tests, readAll (text ++ rest) = (tests, rest) ∧ ∀ first all any,
      Expression.addAll ⟨some first, all, any⟩ tests =
        .ok (Expression.extended first all any others) := by
  induction h with
  | nil =>
      refine ⟨[], readAll_of_none hrest, fun first all any => ?_⟩
      rw [Expression.extended_nil, Expression.addAll]
  | @cons joiner condition others before behind test tail hbefore hbehind hfirst _ ih =>
      obtain ⟨tests, hread, hadd⟩ := ih
      obtain ⟨letter, argument, hletter, hargument, hwritten⟩ := exists_writtenText hfirst
      have hnext : read? (before ++ joiner.mark :: (behind ++ (test ++ tail)) ++ rest) =
          some (⟨some joiner, letter, argument⟩, tail ++ rest) :=
        read?_eq_some_iff.2 ⟨_, hwritten (some joiner) before behind hbefore hbehind, by
          simp only [joinerText, List.append_assoc, List.cons_append, List.nil_append]⟩
      refine ⟨⟨some joiner, letter, argument⟩ :: tests, by rw [readAll_of_some hnext, hread],
        fun first all any => ?_⟩
      have hhead : Expression.add ⟨some first, all, any⟩ ⟨some joiner, letter, argument⟩ =
          .ok (Expression.extended first all any [(joiner, condition)]) :=
        Expression.add_eq_ok_iff.2 ⟨condition.test, hletter, by
          rw [Expression.join_some, hargument]⟩
      refine Expression.addAll_cons_eq_ok_iff.2 ⟨_, hhead, ?_⟩
      rw [Expression.extended, hadd]
      simp only [Expression.extended, joinedBy, List.append_assoc, ← List.map_append,
        ← List.filter_append, List.singleton_append]

/-! ## The tests behind `IF` -/

theorem Expression.addAll_first_ne_none {expression result : Expression}
    {tests : List WrittenTest} (hfirst : expression.first ≠ none)
    (h : expression.addAll tests = .ok result) : result.first ≠ none := by
  obtain ⟨first, hsome⟩ := Option.ne_none_iff_exists'.1 hfirst
  obtain ⟨_, all, any⟩ := expression
  subst hsome
  clear hfirst
  induction tests generalizing all any with
  | nil =>
      rw [Expression.addAll, Except.ok.injEq] at h
      rw [← h]
      simp
  | cons written tests ih =>
      obtain ⟨middle, hhead, htail⟩ := Expression.addAll_cons_eq_ok_iff.1 h
      obtain ⟨joiner, test, _, _, rfl⟩ := Expression.exists_joiner_of_add hhead
      exact ih _ _ htail

theorem Expression.ofTests_eq_ok_iff {tests : List WrittenTest} {result : Expression} :
    Expression.ofTests tests = .ok result ↔
      ∃ written others test, tests = written :: others ∧ written.joiner = none ∧
        Test.ofLetter? written.letter = some test ∧
        Expression.addAll ⟨some ⟨test, String.ofList written.argument⟩, [], []⟩ others =
          .ok result := by
  cases tests with
  | nil => simp [Expression.ofTests, Expression.addAll]
  | cons written others =>
      constructor
      · intro h
        unfold Expression.ofTests at h
        split at h
        · next expression hadd =>
            split at h
            · cases h
            · cases h
              obtain ⟨middle, hhead, htail⟩ := Expression.addAll_cons_eq_ok_iff.1 hadd
              obtain ⟨test, hletter, hjoin⟩ := Expression.add_eq_ok_iff.1 hhead
              cases hjoiner : written.joiner with
              | some joiner =>
                  rw [hjoiner] at hjoin
                  cases hjoin
              | none =>
                  rw [hjoiner] at hjoin
                  cases hjoin
                  exact ⟨written, others, test, rfl, hjoiner, hletter, htail⟩
        · cases h
      · rintro ⟨_, _, test, hsplit, hjoiner, hletter, hadd⟩
        obtain ⟨rfl, rfl⟩ := List.cons.inj hsplit
        have hall : Expression.addAll {} (written :: others) = .ok result :=
          Expression.addAll_cons_eq_ok_iff.2 ⟨_, Expression.add_eq_ok_iff.2 ⟨test, hletter, by
            rw [hjoiner]
            rfl⟩, hadd⟩
        have hfirst := Expression.addAll_first_ne_none (by simp) hadd
        rw [Expression.ofTests, hall]
        simp only [Option.isNone_iff_eq_none, if_neg hfirst]

/-! ## Keywords -/

namespace Line

theorem endsBefore_iff {cs : List Char} :
    Keyword.endsBefore cs = true ↔
      cs = [] ∨ ∃ c rest, cs = c :: rest ∧ isBlankChar c = true := by
  cases cs with
  | nil => simp [Keyword.endsBefore]
  | cons c rest => simp [Keyword.endsBefore]

/-- A keyword of two letters starts with a letter, so the blanks in front of it end there. -/
theorem trimStart_spells {blanks word : List Char} {a b : Char} (hblank : isBlank blanks = true)
    (hlower : isAsciiLetter a.toLower = true) (hupper : isAsciiLetter a.toLower.toUpper = true)
    (hword : Spells [a, b] word) (rest : List Char) :
    trimStart (blanks ++ (word ++ rest)) = word ++ rest := by
  rw [trimStart_append hblank]
  obtain ⟨c, d, rfl, hc, -⟩ := hword.eq_pair
  refine trimStart_cons (not_blank_of_isAsciiLetter ?_) _
  rcases hc with rfl | rfl
  · exact hlower
  · exact hupper

theorem afterIf?_append {blanks word gap : List Char} (hblank : isBlank blanks = true)
    (hword : Spells ['I', 'F'] word) (hgap : isBlank gap = true) (hne : gap ≠ [])
    (rest : List Char) : afterIf? (blanks ++ (word ++ (gap ++ rest))) = some (trimStart rest) := by
  rw [afterIf?, trimStart_spells hblank (by decide) (by decide) hword, dropWord_append hword]
  cases gap with
  | nil => exact absurd rfl hne
  | cons c gap =>
      rw [isBlank, List.all_cons, Bool.and_eq_true] at hgap
      simp only [List.cons_append, hgap.1, if_true]
      rw [trimStart_append hgap.2]

theorem exists_of_afterIf? {cs rest : List Char} (h : afterIf? cs = some rest) :
    ∃ blanks word gap, isBlank blanks = true ∧ Spells ['I', 'F'] word ∧ isBlank gap = true ∧
      gap ≠ [] ∧ cs = blanks ++ (word ++ (gap ++ rest)) := by
  obtain ⟨blanks, hblank, hsplit⟩ := exists_blanks_append_trimStart cs
  unfold afterIf? at h
  split at h
  · next c behind hword =>
      split at h
      · next hc =>
          obtain rfl := Option.some.inj h
          obtain ⟨word, hspells, hcs⟩ := exists_spells_of_dropWord hword
          obtain ⟨gap, hgap, hbehind⟩ := exists_blanks_append_trimStart behind
          refine ⟨blanks, word, c :: gap, hblank, hspells, ?_, List.cons_ne_nil c gap, ?_⟩
          · rw [isBlank, List.all_cons, hc, Bool.true_and]
            exact hgap
          · rw [List.cons_append, ← hbehind, ← hcs, ← hsplit]
      · cases h
  · cases h

theorem afterDo?_append {blanks word action : List Char} (hblank : isBlank blanks = true)
    (hword : Spells ['D', 'O'] word)
    (hends : action = [] ∨ ∃ c rest, action = c :: rest ∧ isBlankChar c = true) :
    afterDo? (blanks ++ (word ++ action)) = some (trimStart action) := by
  rw [afterDo?, trimStart_spells hblank (by decide) (by decide) hword, dropWord_append hword]
  simp only [endsBefore_iff.2 hends, if_true]

theorem exists_of_afterDo? {cs rest : List Char} (h : afterDo? cs = some rest) :
    ∃ blanks word action, isBlank blanks = true ∧ Spells ['D', 'O'] word ∧
      (action = [] ∨ ∃ c rest, action = c :: rest ∧ isBlankChar c = true) ∧
      rest = trimStart action ∧ cs = blanks ++ (word ++ action) := by
  obtain ⟨blanks, hblank, hsplit⟩ := exists_blanks_append_trimStart cs
  unfold afterDo? at h
  split at h
  · next action hword =>
      split at h
      · next hends =>
          obtain ⟨word, hspells, hcs⟩ := exists_spells_of_dropWord hword
          exact ⟨blanks, word, action, hblank, hspells, endsBefore_iff.1 hends,
            (Option.some.inj h).symm, by rw [← hcs, ← hsplit]⟩
      · cases h
  · cases h

/-- No line starts with both keywords. -/
theorem afterIf?_doText {action : Action} {text : List Char} (h : DoText action text) :
    afterIf? text = none := by
  obtain ⟨hblank, hword, -⟩ := h
  rw [afterIf?, trimStart_spells hblank (by decide) (by decide) hword]
  obtain ⟨c, d, rfl, hc, -⟩ := hword.eq_pair
  rcases hc with rfl | rfl <;> rfl

/-- The loop over tests stops at `DO`: no parenthesis follows the letter `D`. -/
theorem read?_doText {action : Action} {text : List Char} (h : DoText action text) :
    WrittenTest.read? text = none := by
  obtain ⟨hblank, hword, hends⟩ := h
  rename_i tail
  rw [WrittenTest.read?, trimStart_spells hblank (by decide) (by decide) hword]
  obtain ⟨c, d, rfl, hc, hd⟩ := hword.eq_pair
  have hread : ∀ rest, WrittenTest.readLetter? none (c :: d :: rest) = none := by
    intro rest
    have hsecond : trimStart (d :: rest) = d :: rest := trimStart_cons (by
      rcases hd with rfl | rfl <;> decide) rest
    rw [WrittenTest.readLetter?, hsecond]
    rcases hc with rfl | rfl <;> rcases hd with rfl | rfl <;> rfl
  have hfirst : isAsciiLetter c = true := by rcases hc with rfl | rfl <;> decide
  have hjoiner := WrittenTest.readJoiner_of_isAsciiLetter hfirst ([d] ++ tail)
  have htrim := trimStart_cons (not_blank_of_isAsciiLetter hfirst) ([d] ++ tail)
  simp only [List.cons_append, List.nil_append] at hjoiner htrim ⊢
  rw [hjoiner]
  simp only [htrim]
  exact hread tail

theorem parse_trimStart (action : List Char) :
    Action.parse (trimStart action) = Action.parse action := by
  simp only [Action.parse, trim, trimStart_trimStart]

/-! ## Lines -/

theorem exists_of_splitTests {text rest : List Char} {expression : Expression}
    (h : splitTests text = .ok (expression, rest)) :
    (expression = ⟨none, [], []⟩ ∧ text = rest) ∨
      ∃ blanks word gap first test others tail, isBlank blanks = true ∧
        Spells ['I', 'F'] word ∧ isBlank gap = true ∧ gap ≠ [] ∧ TestText first test ∧
        JoinedText others tail ∧ expression = Expression.extended first [] [] others ∧
        text = blanks ++ (word ++ (gap ++ (test ++ (tail ++ rest)))) := by
  unfold splitTests at h
  split at h
  · next inner hif =>
      obtain ⟨blanks, word, gap, hblank, hword, hgap, hne, rfl⟩ := exists_of_afterIf? hif
      rcases hread : WrittenTest.readAll inner with ⟨tests, behind⟩
      simp only [hread] at h
      cases hof : Expression.ofTests tests with
      | error fault =>
          rw [hof] at h
          cases h
      | ok result =>
          rw [hof] at h
          cases h
          obtain ⟨written, others, test, rfl, hjoiner, hletter, hadd⟩ :=
            Expression.ofTests_eq_ok_iff.1 hof
          cases hnext : WrittenTest.read? inner with
          | none =>
              rw [WrittenTest.readAll_of_none hnext] at hread
              cases hread
          | some next =>
              obtain ⟨head, following⟩ := next
              rw [WrittenTest.readAll_of_some hnext, Prod.mk.injEq, List.cons.injEq] at hread
              obtain ⟨⟨rfl, hothers⟩, hrest⟩ := hread
              obtain ⟨headText, hhead, rfl⟩ := WrittenTest.read?_eq_some_iff.1 hnext
              obtain ⟨before, behind, first, hbefore, hbehind, hfirst, rfl⟩ :=
                WrittenTest.exists_testText hhead hletter
              obtain ⟨joined, tail, htail, rfl, rfl⟩ :=
                exists_joinedText (Prod.ext hothers hrest) hadd
              refine Or.inr ⟨blanks, word, gap ++ (before ++ behind), _, first, joined, tail,
                hblank, hword, ?_, ?_, hfirst, htail, rfl, ?_⟩
              · rw [isBlank_append, isBlank_append]
                exact ⟨hgap, hbefore, hbehind⟩
              · simp [hne]
              · rw [hjoiner]
                simp only [WrittenTest.joinerText, List.append_assoc, List.nil_append]
  · cases h
    exact Or.inl ⟨rfl, rfl⟩

theorem splitTests_guarded {blanks word gap test tail rest : List Char} {first : Condition}
    {others : List (Joiner × Condition)} (hblank : isBlank blanks = true)
    (hword : Spells ['I', 'F'] word) (hgap : isBlank gap = true) (hne : gap ≠ [])
    (hfirst : TestText first test) (hothers : JoinedText others tail)
    (hrest : WrittenTest.read? rest = none) :
    splitTests (blanks ++ (word ++ (gap ++ (test ++ (tail ++ rest))))) =
      .ok (Expression.extended first [] [] others, rest) := by
  obtain ⟨letter, argument, hletter, hargument, hwritten⟩ :=
    WrittenTest.exists_writtenText hfirst
  obtain ⟨tests, hread, hadd⟩ := exists_readAll hothers hrest
  have htrim : trimStart (test ++ (tail ++ rest)) = test ++ (tail ++ rest) := by
    obtain ⟨hnamed, -, -⟩ := hfirst
    exact trimStart_cons (not_blank_of_isAsciiLetter
      (Test.isAsciiLetter_of_ofLetter? (Test.ofLetter?_eq_some_iff.2 hnamed))) _
  have hnext : WrittenTest.read? (test ++ (tail ++ rest)) =
      some (⟨none, letter, argument⟩, tail ++ rest) :=
    WrittenTest.read?_eq_some_iff.2 ⟨test, hwritten none [] [] rfl rfl, rfl⟩
  have hof : Expression.ofTests (⟨none, letter, argument⟩ :: tests) =
      .ok (Expression.extended first [] [] others) :=
    Expression.ofTests_eq_ok_iff.2 ⟨_, tests, first.test, rfl, rfl, hletter, by
      rw [← hadd, hargument]⟩
  rw [splitTests, afterIf?_append hblank hword hgap hne, htrim]
  simp only [WrittenTest.readAll_of_some hnext, hread, hof]
  rfl

/-- A text that is not blank is read as a line if it has a derivation, and as that line only. -/
theorem parseContent_eq_ok_iff {number : Nat} {text : List Char} {line : Line} :
    parseContent number text = .ok line ↔ LineText number line text := by
  constructor
  · intro h
    unfold parseContent at h
    split at h
    · next expression rest hsplit =>
        split at h
        · next action hdo =>
            obtain rfl := Except.ok.inj h
            obtain ⟨space, keyword, body, hspace, hkeyword, hends, rfl, rfl⟩ :=
              exists_of_afterDo? hdo
            rw [parse_trimStart]
            have hbody : DoText (Action.parse body) (space ++ (keyword ++ body)) :=
              .intro hspace hkeyword hends
            rcases exists_of_splitTests hsplit with ⟨rfl, rfl⟩ | ⟨blanks, word, gap, first, test,
              others, tail, hblank, hword, hgap, hne, hfirst, hothers, rfl, rfl⟩
            · exact .plain hbody
            · exact .guarded hblank hword hgap hne hfirst hothers hbody
        · cases h
    · cases h
  · intro h
    cases h with
    | @plain action _ hbody =>
        have hsplit : splitTests text = .ok (⟨none, [], []⟩, text) := by
          rw [splitTests, afterIf?_doText hbody]
        obtain ⟨hspace, hkeyword, hends⟩ := hbody
        rw [parseContent, hsplit]
        simp only [afterDo?_append hspace hkeyword hends, parse_trimStart]
    | guarded hblank hword hgap hne hfirst hothers hbody =>
        rw [parseContent,
          splitTests_guarded hblank hword hgap hne hfirst hothers (read?_doText hbody)]
        obtain ⟨hspace, hkeyword, hends⟩ := hbody
        simp only [afterDo?_append hspace hkeyword hends, parse_trimStart, Expression.extended,
          List.nil_append]

theorem parse_eq_some_iff {number : Nat} {text : List Char} {line : Line} :
    parse number text = .ok (some line) ↔
      isBlank (before commentMark text) = false ∧
        LineText number line (before commentMark text) := by
  rw [parse, ← parseContent_eq_ok_iff]
  cases isBlank (before commentMark text) with
  | true => simp
  | false => cases parseContent number (before commentMark text) <;> simp [Except.map]

/-- What stands in front of the comment decides: a blank text is no line, a text with a derivation is
the line of that derivation, and every other text is malformed. -/
theorem parse_accepts_grammar (number : Nat) (text : List Char) :
    IsBefore commentMark text (before commentMark text) ∧
      (parse number text = .ok none ↔ isBlank (before commentMark text) = true) ∧
      (∀ line, parse number text = .ok (some line) ↔
        isBlank (before commentMark text) = false ∧
          LineText number line (before commentMark text)) ∧
      ((∃ fault, parse number text = .error fault) ↔
        isBlank (before commentMark text) = false ∧
          ∀ line, ¬ LineText number line (before commentMark text)) := by
  refine ⟨isBefore_before commentMark text, ?_⟩
  simp only [← parseContent_eq_ok_iff, parse]
  cases hblank : isBlank (before commentMark text) with
  | true => simp
  | false =>
      cases parseContent number (before commentMark text) with
      | ok line => simp [Except.map]
      | error fault => simp [Except.map]

end Line

end MediaShelf
