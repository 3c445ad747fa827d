import MediaShelf.Proofs.Script.Comparison
import MediaShelf.Proofs.Script.Substitution

/-!
# Negated tests

A `!` in front of an argument turns the answer of a test around if there is an answer. A test that
cannot be judged is false with the `!` as it is without, so which arguments a test can be judged
with (`Condition.IsDefined`) shows from the outside: exactly one of a test and its negation holds
then, and otherwise neither of them.

The reason is the same for all tests. A test looks for something with the value alone, which is the
same behind a `!`, and the operator comes in only when it has found an answer (`Condition.Finds`).
The two reserved tests are the exception: they are judged, and false, whatever the argument is.

The word for no group and the letters of kinds are understood in any case, and the year of a show can
be judged without an air date. A list of arguments that leaves these out (`Condition.IsListed`) is too
short.
-/

namespace MediaShelf

namespace Argument

open Text

/-! ## Arguments with and without a `!` -/

theorem splitNegation_of_ne {text : List Char} (h : ∀ c ∈ (trim text).head?, c ≠ '!') :
    splitNegation text = (false, trim text) := by
  unfold splitNegation
  split
  · next rest heq =>
      rw [heq] at h
      exact absurd rfl (h '!' rfl)
  · rfl

theorem splitNegation_mark (text : List Char) :
    splitNegation ('!' :: text) = (true, trim text) := by
  have htrim : trim ('!' :: text) = '!' :: trimEnd text := by
    rw [trim, trimStart_cons (by decide)]
    exact trimEnd_append_cons (by decide) [] text
  simp only [splitNegation, htrim, trimStart_trimEnd]

theorem equality_of_ne {argument : String} (h : ∀ c ∈ (trim argument.toList).head?, c ≠ '!') :
    equality argument.toList = ⟨.equal, trimmed argument⟩ := by
  simp only [equality, splitNegation_of_ne h, trim_trim]
  rfl

theorem toList_mark (argument : String) : ("!" ++ argument).toList = '!' :: argument.toList :=
  String.toList_append

theorem equality_mark (argument : String) :
    equality ("!" ++ argument).toList = ⟨.notEqual, trimmed argument⟩ := by
  simp only [equality, toList_mark, splitNegation_mark, trim_trim]
  rfl

/-- Without a mark of an inequality, a comparison of numbers is read as an equality. -/
theorem relational_eq_equality {text : List Char}
    (h : ∀ c ∈ (splitNegation text).2.head?, c ≠ '<' ∧ c ≠ '>') :
    relational text = equality text := by
  simp only [relational, equality, splitInequality_of_ne h]

/-- Comparing with an equality is asking whether it is the number. -/
theorem compare_equality (text : List Char) (actual n : Int) :
    (equality text).compare actual n = (equality text).holds (actual == n) := by
  unfold equality
  obtain ⟨negated, rest⟩ := splitNegation text
  cases negated <;> rfl

theorem compareNumber_equality (text : List Char) (range : NumberRange) (actual : Int) :
    (equality text).compareNumber range actual =
      (((equality text).number range).map (actual == ·)).map (equality text).holds := by
  unfold compareNumber
  cases (equality text).number range with
  | error error => rfl
  | ok n => exact congrArg Except.ok (compare_equality text actual n)

/-- Numbers are read off the value alone. -/
theorem number_mk (argument : Argument) (operator : Operator) (range : NumberRange) :
    number ⟨operator, argument.value⟩ range = argument.number range := rfl

theorem exists_number_iff {argument : Argument} {range : NumberRange} :
    (∃ n, argument.number range = .ok n) ↔ ∃ n, range.Admits argument.value.toList n := by
  unfold number
  simp only [← readNumeral_eq_some_iff]
  cases readNumeral range argument.value.toList <;> simp

end Argument

namespace Condition

open Text

/-! ## Where tests are defined -/

/-- A text spells one of the kinds that are named by some words. -/
def IsSpelling {α : Type} (words : List (String × α)) (value : String) : Prop :=
  ∃ word ∈ words, reducedSpelling value = word.1.toList

/-- A test of a number has one to look at, and a value that is a numeral in its range. -/
def IsComparable (ctx : NamingContext) (value : String) (t : NumericTest) : Prop :=
  (∃ actual, t.actual? ctx = some actual) ∧ ∃ n, t.range.Admits value.toList n

/-- A test can be judged with a value. The case of letters does not matter, except in names of
tokens. The year of a show needs no air date, because a show without one is taken for one of the
year 0. -/
def IsDefined (ctx : NamingContext) (value : String) : Test → Prop
  | .showId => ∃ n, NumberRange.long.Admits value.toList n
  | .groupId =>
    (∃ n, NumberRange.long.Admits value.toList n) ∨ Spells "unknown".toList value.toList
  | .audioLanguage => ∃ release, ctx.file.release = some release
  | .subtitleLanguage => True
  | .fileVersion => IsComparable ctx value .fileVersion
  | .bitDepth => IsComparable ctx value .bitDepth
  | .videoWidth => IsComparable ctx value .videoWidth
  | .videoHeight => IsComparable ctx value .videoHeight
  | .source => IsSpelling Source.words value
  | .showKind => IsSpelling ShowKind.words value
  | .year => ∃ n, NumberRange.signed.Admits value.toList n
  | .episodeNumber => IsComparable ctx value .episodeNumber
  | .episodeKind =>
    ctx.episodes ≠ [] ∧ ∃ letter, value.toList = [letter] ∧ letter.toUpper ∈ kindLetters
  | .episodeCount => ∃ n, NumberRange.word.Admits value.toList n
  | .hasToken => ∃ token : Token, value = token.name ∨ value = token.placeholder
  | .manuallyLinked => True
  | .hasEpisodes => True
  | .videoCodec => False
  | .audioCodec => False

/-- A stricter list: words are in small letters and kinds of episodes in capital ones, and tests of the
year are for shows with an air date. -/
def IsListed (ctx : NamingContext) (value : String) : Test → Prop
  | .groupId => (∃ n, NumberRange.long.Admits value.toList n) ∨ value = "unknown"
  | .year => ctx.show.airDate ≠ none ∧ ∃ n, NumberRange.signed.Admits value.toList n
  | .episodeKind => ctx.episodes ≠ [] ∧ ∃ letter ∈ kindLetters, value.toList = [letter]
  | test => IsDefined ctx value test

/-- An argument does not start with a mark that the test would read as an operator: a `!`, or in a
test of numbers `<` or `>`. -/
def IsUnmarked (test : Test) (argument : String) : Prop :=
  ∀ c ∈ (trim argument.toList).head?,
    c ≠ '!' ∧ ((∃ t : NumericTest, t.test = test) → c ≠ '<' ∧ c ≠ '>')

theorem isUnmarked_of_head? {test : Test} {argument : String} {c : Char}
    (hhead : (trim argument.toList).head? = some c) (hc : c ∉ operatorChars) :
    IsUnmarked test argument := by
  intro d hd
  obtain rfl : c = d := Option.some.inj (hhead.symm.trans hd)
  have hne : ∀ mark ∈ operatorChars, c ≠ mark := fun _ hmark =>
    (ne_of_mem_of_not_mem hmark hc).symm
  exact ⟨hne '!' (by decide), fun _ => ⟨hne '<' (by decide), hne '>' (by decide)⟩⟩

/-! ## What tests find -/

/-- A test looks for something with the value of its argument, and a `!` turns around what it
finds. -/
structure Finds (ctx : NamingContext) (test : Test) (find : String → Except ScriptError Bool) :
    Prop where
  plain : ∀ argument, IsUnmarked test argument →
    judge ⟨test, argument⟩ ctx = find (trimmed argument)
  negated : ∀ argument, IsUnmarked test argument →
    judge ⟨test, "!" ++ argument⟩ ctx = (find (trimmed argument)).map not

/-- A test finds an answer with some values, and with no other ones. -/
def AnswersOn (ctx : NamingContext) (test : Test) (defined : String → Prop) : Prop :=
  ∃ find, Finds ctx test find ∧
    ∀ value, trimmed value = value → ((∃ b, find value = .ok b) ↔ defined value)

/-- A test does so if it applies the operator last. A test of numbers has to, where the argument has
no mark of an inequality and reads as an equality. -/
theorem finds_of_judge {ctx : NamingContext} {test : Test} {find : String → Except ScriptError Bool}
    (h : ∀ argument : String,
      ((∃ t : NumericTest, t.test = test) →
        Argument.relational argument.toList = Argument.equality argument.toList) →
      judge ⟨test, argument⟩ ctx =
        (find (Argument.equality argument.toList).value).map
          (Argument.equality argument.toList).holds) :
    Finds ctx test find where
  plain argument hunmarked := by
    have hne : ∀ c ∈ (trim argument.toList).head?, c ≠ '!' := fun c hc => (hunmarked c hc).1
    rw [h, Argument.equality_of_ne hne]
    · exact id_map (find (trimmed argument))
    · intro hnumeric
      refine Argument.relational_eq_equality ?_
      rw [Argument.splitNegation_of_ne hne]
      exact fun c hc => (hunmarked c hc).2 hnumeric
  negated argument hunmarked := by
    rw [h, Argument.equality_mark]
    · rfl
    · -- Behind the `!` the same text is left, so that no mark comes up there either.
      intro hnumeric
      refine Argument.relational_eq_equality ?_
      rw [Argument.toList_mark, Argument.splitNegation_mark]
      exact fun c hc => (hunmarked c hc).2 hnumeric

theorem exists_map_eq_ok_iff {α : Type} {found : Except ScriptError α} {check : α → Bool} :
    (∃ b, found.map check = .ok b) ↔ ∃ a, found = .ok a := by
  cases found <;> simp [Except.map]

/-- A test that looks something up by the value, and applies the operator to a check of what is
there. -/
theorem answersOn_of_look {ctx : NamingContext} {test : Test} {defined : String → Prop} {α : Type}
    (look : Argument → Except ScriptError α) (check : α → Bool)
    (hvalue : ∀ operator argument, look ⟨operator, argument.value⟩ = look argument)
    (hjudge : ∀ argument : String, judge ⟨test, argument⟩ ctx = (do
      let a ← look (Argument.equality argument.toList)
      return (Argument.equality argument.toList).holds (check a)))
    (hlook : ∀ argument, trimmed argument.value = argument.value →
      ((∃ a, look argument = .ok a) ↔ defined argument.value)) :
    AnswersOn ctx test defined := by
  refine ⟨fun value => (look ⟨.equal, value⟩).map check, finds_of_judge fun argument _ => ?_,
    fun value htrimmed => exists_map_eq_ok_iff.trans (hlook ⟨.equal, value⟩ htrimmed)⟩
  rw [hjudge, hvalue .equal (Argument.equality argument.toList)]
  cases look (Argument.equality argument.toList) <;> rfl

/-- A test that needs some data first. -/
theorem answersOn_of_need {ctx : NamingContext} {test : Test} {defined : String → Prop}
    {α β : Type} (what : String) (data : Option β) (look : Argument → Except ScriptError α)
    (check : β → α → Bool)
    (hvalue : ∀ operator argument, look ⟨operator, argument.value⟩ = look argument)
    (hjudge : ∀ argument : String, judge ⟨test, argument⟩ ctx = (do
      let b ← need what data
      let a ← look (Argument.equality argument.toList)
      return (Argument.equality argument.toList).holds (check b a)))
    (hlook : ∀ argument, trimmed argument.value = argument.value →
      ((∃ b, data = some b) ∧ (∃ a, look argument = .ok a) ↔ defined argument.value)) :
    AnswersOn ctx test defined := by
  cases data with
  | none =>
      refine ⟨fun _ => .error (.missingData what), finds_of_judge fun argument _ => hjudge argument,
        fun value htrimmed => ?_⟩
      rw [← hlook ⟨.equal, value⟩ htrimmed]
      exact iff_of_false (by simp) (by simp)
  | some b =>
      refine answersOn_of_look look (check b) hvalue hjudge fun argument htrimmed => ?_
      rw [← hlook argument htrimmed, and_iff_right ⟨b, rfl⟩]

/-! ## Values that tests understand -/

theorem exists_namedGroup_iff {argument : Argument} :
    (∃ n, namedGroup argument = .ok n) ↔
      (∃ n, NumberRange.long.Admits argument.value.toList n) ∨
        Spells "unknown".toList argument.value.toList := by
  have hspells : sameIgnoringCase argument.value "unknown" = true ↔
      Spells "unknown".toList argument.value.toList := by
    rw [sameIgnoringCase, beq_iff_eq, lowerAscii, lowerAscii, String.ofList_inj, Spells]
  rw [namedGroup, ← hspells, ← Argument.exists_number_iff]
  split
  · next h => exact iff_of_true ⟨0, rfl⟩ (Or.inr h)
  · next h => rw [or_iff_left h]

theorem exists_namedKind_iff {argument : Argument} :
    (∃ letter, namedKind argument = .ok letter) ↔
      ∃ letter, argument.value.toList = [letter] ∧ letter.toUpper ∈ kindLetters := by
  unfold namedKind
  split
  · next c hvalue =>
      rw [hvalue]
      split
      · next hletter =>
          exact iff_of_true ⟨c.toUpper, rfl⟩ ⟨c, rfl, List.contains_iff_mem.1 hletter⟩
      · next hletter =>
          refine iff_of_false (by simp) ?_
          rintro ⟨letter, hsame, hmem⟩
          cases hsame
          exact hletter (List.contains_iff_mem.2 hmem)
  · next hvalue =>
      refine iff_of_false (by simp) ?_
      rintro ⟨letter, hletter, -⟩
      exact hvalue letter hletter

theorem exists_firstEpisode?_iff {ctx : NamingContext} :
    (∃ episode, ctx.firstEpisode? = some episode) ↔ ctx.episodes ≠ [] := by
  rw [NamingContext.firstEpisode?, ← Option.isSome_iff_exists, List.isSome_head?]

theorem exists_spelled_iff {α : Type} {field : String} {words : List (String × α)}
    {argument : Argument} :
    (∃ kind, spelled (readSpelling field words) argument = .ok kind) ↔
      IsSpelling words argument.value := by
  have hfound : (words.find? fun word => word.1.toList == reducedSpelling argument.value).isSome =
      true ↔ IsSpelling words argument.value := by
    simp only [List.find?_isSome, beq_iff_eq, IsSpelling, eq_comm (b := reducedSpelling _)]
  rw [← hfound, spelled, readSpelling]
  cases words.find? fun word => word.1.toList == reducedSpelling argument.value <;> simp

theorem percent_ne_name (token : Token) (rest : List Char) : token.name.toList ≠ '%' :: rest := by
  intro hname
  have hall := token.all_name
  rw [hname, List.all_cons] at hall
  exact absurd (Bool.and_eq_true_iff.1 hall).1 (by decide)

theorem named?_ok_iff {name : List Char} {error : ScriptError} {token : Token} :
    (match Token.named? name with
      | some found => Except.ok found
      | none => .error error) = .ok token ↔ token.name.toList = name := by
  rw [← Token.named?_eq_some_iff]
  cases Token.named? name <;> simp

theorem read_eq_ok_iff {value : String} (h : trimmed value = value) {token : Token} :
    Token.read value = .ok token ↔ value = token.name ∨ value = token.placeholder := by
  have htrim : trim value.toList = value.toList := by
    rw [← String.ofList_inj, String.ofList_toList]
    exact h
  have hplaceholder : token.placeholder.toList = '%' :: token.name.toList := String.toList_append
  rw [← String.toList_inj, ← String.toList_inj, hplaceholder, Token.read, htrim]
  refine named?_ok_iff.trans ?_
  split
  · next rest hvalue =>
      rw [hvalue, or_iff_right (percent_ne_name token rest).symm, List.cons.injEq,
        and_iff_right rfl, eq_comm]
  · next hvalue => rw [or_iff_left (hvalue _), eq_comm]

/-! ## Each test -/

theorem answersOn_numeric (ctx : NamingContext) (t : NumericTest) :
    AnswersOn ctx t.test (IsComparable ctx · t) := by
  obtain ⟨what, hjudge⟩ := judge_numeric t ctx
  refine ⟨fun value => need what (t.actual? ctx) >>= fun actual =>
    (Argument.number ⟨.equal, value⟩ t.range).map (actual == ·), finds_of_judge ?_, ?_⟩
  · intro argument hequality
    rw [hjudge, hequality ⟨t, rfl⟩]
    cases t.actual? ctx with
    | none => rfl
    | some actual =>
        rw [need_some, need_some, Argument.number_mk]
        exact Argument.compareNumber_equality argument.toList t.range actual
  · intro value _
    beta_reduce
    cases hactual : t.actual? ctx with
    | none =>
        refine iff_of_false (by simp [need, bind, Except.bind]) ?_
        rintro ⟨⟨actual, hsome⟩, -⟩
        cases hactual.symm.trans hsome
    | some actual =>
        rw [need_some, exists_map_eq_ok_iff, Argument.exists_number_iff]
        exact (and_iff_right ⟨actual, hactual⟩).symm

/-- A number that is always known leaves only the numeral to be asked for. -/
theorem answersOn_known {ctx : NamingContext} {t : NumericTest} {actual : Int}
    (h : t.actual? ctx = some actual) :
    AnswersOn ctx t.test fun value => ∃ n, t.range.Admits value.toList n := by
  obtain ⟨find, hfinds, hdefined⟩ := answersOn_numeric ctx t
  exact ⟨find, hfinds, fun value htrimmed =>
    (hdefined value htrimmed).trans (and_iff_right ⟨actual, h⟩)⟩

/-- All tests but the reserved ones. -/
theorem answersOn_isDefined (ctx : NamingContext) {test : Test}
    (hused : test ≠ .videoCodec ∧ test ≠ .audioCodec) :
    AnswersOn ctx test (IsDefined ctx · test) := by
  cases test with
  | showId =>
      exact answersOn_of_look (·.number .long) (Int.ofNat ctx.show.id.toNat == ·) (fun _ _ => rfl)
        (fun _ => rfl) fun _ _ => Argument.exists_number_iff
  | groupId =>
      -- A file that is no known release counts as one of group 0, so there is an answer as well.
      refine answersOn_of_look namedGroup
        (Int.ofNat (ctx.file.release.elim 0 (·.groupId)).toNat == ·) (fun _ _ => rfl)
        (fun argument => ?_) fun _ _ => exists_namedGroup_iff
      simp only [judge]
      cases ctx.file.release <;> rfl
  | audioLanguage =>
      refine answersOn_of_need "catalog file" ctx.file.release (fun argument => .ok argument.value)
        (fun release => speaks release.audioLanguages) (fun _ _ => rfl) (fun _ => rfl)
        fun argument _ => ?_
      exact and_iff_left ⟨argument.value, rfl⟩
  | subtitleLanguage =>
      exact answersOn_of_look (fun argument => .ok argument.value) (fun value =>
          if sameIgnoringCase value "none" then ctx.file.subtitleTracks.isEmpty
          else speaks ctx.file.subtitleTracks value)
        (fun _ _ => rfl) (fun _ => rfl) fun argument _ => iff_of_true ⟨argument.value, rfl⟩ trivial
  | fileVersion => exact answersOn_numeric ctx .fileVersion
  | bitDepth => exact answersOn_numeric ctx .bitDepth
  | videoWidth => exact answersOn_numeric ctx .videoWidth
  | videoHeight => exact answersOn_numeric ctx .videoHeight
  | source =>
      refine answersOn_of_look (spelled Source.read)
        (ctx.file.release.elim .unknown (·.source) == ·) (fun _ _ => rfl) (fun argument => ?_)
        fun _ _ => exists_spelled_iff
      simp only [judge]
      cases ctx.file.release <;> rfl
  | showKind =>
      exact answersOn_of_look (spelled ShowKind.read) (ctx.show.kind == ·) (fun _ _ => rfl)
        (fun _ => rfl) fun _ _ => exists_spelled_iff
  | year => exact answersOn_known (t := .year) rfl
  | episodeNumber => exact answersOn_numeric ctx .episodeNumber
  | episodeKind =>
      refine answersOn_of_need "episode" ctx.firstEpisode? namedKind
        (fun episode => (episode.kind.code == ·)) (fun _ _ => rfl) (fun _ => rfl)
        fun argument _ => ?_
      rw [exists_namedKind_iff, exists_firstEpisode?_iff]
      rfl
  | episodeCount => exact answersOn_known (t := .episodeCount) rfl
  | hasToken =>
      exact answersOn_of_look (fun argument => Token.read argument.value) (·.isPresent ctx)
        (fun _ _ => rfl) (fun _ => rfl) fun _ htrimmed =>
        exists_congr fun token => read_eq_ok_iff htrimmed
  | manuallyLinked =>
      exact answersOn_of_look (fun _ => .ok ()) (fun _ => linkedByHand ctx) (fun _ _ => rfl)
        (fun _ => rfl) fun _ _ => iff_of_true ⟨(), rfl⟩ trivial
  | hasEpisodes =>
      exact answersOn_of_look (fun _ => .ok ()) (fun _ => !ctx.episodes.isEmpty) (fun _ _ => rfl)
        (fun _ => rfl) fun _ _ => iff_of_true ⟨(), rfl⟩ trivial
  | videoCodec => exact absurd rfl hused.1
  | audioCodec => exact absurd rfl hused.2

/-! ## A test and its negation -/

theorem trimmed_trimmed (s : String) : trimmed (trimmed s) = trimmed s := by
  rw [trimmed, trimmed, String.toList_ofList, trim_trim]

theorem AnswersOn.complementary {ctx : NamingContext} {test : Test} {defined : String → Prop}
    (h : AnswersOn ctx test defined) {argument : String} (hunmarked : IsUnmarked test argument) :
    ¬ (evaluate ⟨test, argument⟩ ctx = true ∧ evaluate ⟨test, "!" ++ argument⟩ ctx = true) ∧
      (Xor (evaluate ⟨test, argument⟩ ctx = true) (evaluate ⟨test, "!" ++ argument⟩ ctx = true) ↔
        defined (trimmed argument)) := by
  obtain ⟨find, hfinds, hdefined⟩ := h
  rw [← hdefined _ (trimmed_trimmed argument), evaluate_eq_true_iff, evaluate_eq_true_iff,
    hfinds.plain argument hunmarked, hfinds.negated argument hunmarked]
  cases find (trimmed argument) with
  | error error => simp [Except.map, Xor]
  | ok found => cases found <;> simp [Except.map, Xor]

theorem evaluate_reserved {test : Test} (h : test = .videoCodec ∨ test = .audioCodec)
    (ctx : NamingContext) (argument : String) : evaluate ⟨test, argument⟩ ctx = false := by
  rcases h with rfl | rfl <;> rfl

theorem not_isDefined_reserved {test : Test} (h : test = .videoCodec ∨ test = .audioCodec)
    (ctx : NamingContext) (value : String) : ¬ IsDefined ctx value test := by
  rcases h with rfl | rfl <;> exact id

/-- A test and its negation never both hold, and one of them holds exactly if the test is defined
for the value. -/
theorem negation_complements (test : Test) (ctx : NamingContext) {argument : String}
    (hunmarked : IsUnmarked test argument) :
    ¬ (evaluate ⟨test, argument⟩ ctx = true ∧ evaluate ⟨test, "!" ++ argument⟩ ctx = true) ∧
      (Xor (evaluate ⟨test, argument⟩ ctx = true) (evaluate ⟨test, "!" ++ argument⟩ ctx = true) ↔
        IsDefined ctx (trimmed argument) test) := by
  by_cases hreserved : test = .videoCodec ∨ test = .audioCodec
  · have hundefined := not_isDefined_reserved hreserved ctx (trimmed argument)
    rw [evaluate_reserved hreserved, evaluate_reserved hreserved]
    exact ⟨by simp, iff_of_false (by simp) hundefined⟩
  · exact (answersOn_isDefined ctx (not_or.1 hreserved)).complementary hunmarked

/-- The year can be compared with a numeral, and the edition of a file that is no known release with
nothing. -/
theorem negation_complements_aired :
    IsUnmarked .year "\t+02013" ∧
      Xor (evaluate ⟨.year, "\t+02013"⟩ airedContext = true)
        (evaluate ⟨.year, "!" ++ "\t+02013"⟩ airedContext = true) ∧
      IsUnmarked .fileVersion "1" ∧
      ¬ Xor (evaluate ⟨.fileVersion, "1"⟩ airedContext = true)
        (evaluate ⟨.fileVersion, "!" ++ "1"⟩ airedContext = true) := by
  have hyear : IsUnmarked .year "\t+02013" :=
    isUnmarked_of_head? (c := '+') (by decide +kernel) (by decide)
  have hversion : IsUnmarked .fileVersion "1" :=
    isUnmarked_of_head? (c := '1') (by decide +kernel) (by decide)
  have hnumeral : NumberRange.signed.Admits (trimmed "\t+02013").toList 2013 :=
    readNumeral_eq_some_iff.1 (by decide +kernel)
  refine ⟨hyear, ?_, hversion, ?_⟩
  · exact (negation_complements .year airedContext hyear).2.2 ⟨2013, hnumeral⟩
  · rw [(negation_complements .fileVersion airedContext hversion).2]
    rintro ⟨⟨actual, hactual⟩, -⟩
    cases hactual

/-- One of a test and its negation holds for the values of the stricter list, and for no other
ones. -/
def IsListedExactly (test : Test) : Prop :=
  ∀ (ctx : NamingContext) (argument : String), IsUnmarked test argument →
    (Xor (evaluate ⟨test, argument⟩ ctx = true) (evaluate ⟨test, "!" ++ argument⟩ ctx = true) ↔
      IsListed ctx (trimmed argument) test)

/-- Tests of groups, kinds and the year can be judged with more than that. -/
theorem not_isListedExactly :
    ¬ IsListedExactly .groupId ∧ ¬ IsListedExactly .episodeKind ∧ ¬ IsListedExactly .year := by
  refine ⟨?_, ?_, ?_⟩
  · -- No group, in capital letters.
    intro h
    have hunmarked : IsUnmarked .groupId "UNKNOWN" :=
      isUnmarked_of_head? (c := 'U') (by decide +kernel) (by decide)
    rcases (h sampleContext _ hunmarked).1 (Or.inl ⟨by decide +kernel, by decide +kernel⟩) with
      ⟨n, hnumeral⟩ | hword
    · have hnone : readNumeral .long (trimmed "UNKNOWN").toList = none := by decide +kernel
      cases hnone.symm.trans (readNumeral_eq_some_iff.2 hnumeral)
    · exact absurd hword (by decide +kernel)
  · -- A normal episode, by a small letter.
    intro h
    have hunmarked : IsUnmarked .episodeKind "e" :=
      isUnmarked_of_head? (c := 'e') (by decide +kernel) (by decide)
    obtain ⟨-, letter, hletter, hvalue⟩ :=
      (h sampleContext _ hunmarked).1 (Or.inl ⟨by decide +kernel, by decide +kernel⟩)
    have hsmall : (trimmed "e").toList = ['e'] := by decide +kernel
    cases hsmall.symm.trans hvalue
    exact absurd hletter (by decide)
  · -- The year of a show without an air date.
    intro h
    have hunmarked : IsUnmarked .year "0" :=
      isUnmarked_of_head? (c := '0') (by decide +kernel) (by decide)
    obtain ⟨hdate, -⟩ :=
      (h sampleContext _ hunmarked).1 (Or.inl ⟨by decide +kernel, by decide +kernel⟩)
    exact hdate rfl

end Condition

end MediaShelf
