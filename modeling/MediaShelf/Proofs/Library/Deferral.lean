import MediaShelf.Proofs.Library.References
import MediaShelf.Proofs.Library.Scripted
import MediaShelf.Proofs.Script.Extension

/-!
# Trying one strategy after the other

The preferred strategies are tried first, and other than that the order of registration stays, also
where several strategies have one id (`Strategies.isPreferredOrder_iff`).

Naming and placing try them in the same way, though only a placement may never come to an end. So
what is left of trying is told once for answers that may be missing (`Concludes`), and the one fact
behind it is that failures in front have no effect on what the strategies behind them answer
(`attempt_append_of_fails`). An answer that never comes is no failure. It keeps the strategies that
are behind it from being tried at all, even those that know a place.

The registry says that there is no strategy if none is registered. It passes on every other word of
its strategies, so a strategy that says the same is believed.
-/

namespace MediaShelf

namespace Strategies

/-! ## The order -/

/-- The preferred strategies come first, and both they and the other ones stay in the order of their
registration. -/
structure IsPreferredOrder (registered : List Strategy) (preferred : String)
    (order : List Strategy) : Prop where
  perm : order.Perm registered
  groups : ∃ chosen others, order = chosen ++ others ∧
    chosen.Sublist registered ∧ (∀ strategy ∈ chosen, strategy.id = preferred) ∧
    others.Sublist registered ∧ ∀ strategy ∈ others, strategy.id ≠ preferred

/-- A group that is complete and stays in order is what a filter leaves. -/
theorem eq_filter_of_sublist {α : Type} {p : α → Bool} {group order all : List α}
    (hgroup : order.filter p = group) (hsublist : group.Sublist all) (hperm : order.Perm all) :
    group = all.filter p := by
  have hall : ∀ a ∈ group, p a = true := by
    rw [← hgroup]
    exact fun a ha => (List.mem_filter.1 ha).2
  have hfiltered := hsublist.filter p
  rw [List.filter_eq_self.2 hall] at hfiltered
  refine hfiltered.eq_of_length ?_
  rw [← hgroup, (hperm.filter p).length_eq]

theorem isPreferredOrder_select (strategies : Strategies) (preferred : String) :
    IsPreferredOrder strategies.registered preferred (strategies.select preferred) where
  perm := List.filter_append_perm _ strategies.registered
  groups := by
    refine ⟨_, _, rfl, List.filter_sublist, ?_, List.filter_sublist, ?_⟩
    · intro strategy hstrategy
      exact beq_iff_eq.1 (List.mem_filter.1 hstrategy).2
    · intro strategy hstrategy
      exact bne_iff_ne.1 (List.mem_filter.1 hstrategy).2

/-- There is one such order only. -/
theorem isPreferredOrder_iff {strategies : Strategies} {preferred : String}
    {order : List Strategy} :
    IsPreferredOrder strategies.registered preferred order ↔
      order = strategies.select preferred := by
  constructor
  · rintro ⟨hperm, chosen, others, rfl, hchosen, hids, hothers, hnot⟩
    have hfirst : (chosen ++ others).filter (·.id == preferred) = chosen := by
      rw [List.filter_append, List.filter_eq_self.2 fun a ha => beq_iff_eq.2 (hids a ha),
        List.filter_eq_nil_iff.2 fun a ha => beq_iff_eq.not.2 (hnot a ha), List.append_nil]
    have hsecond : (chosen ++ others).filter (·.id != preferred) = others := by
      rw [List.filter_append, List.filter_eq_self.2 fun a ha => bne_iff_ne.2 (hnot a ha),
        List.filter_eq_nil_iff.2 fun a ha => bne_iff_ne.not_left.2 (hids a ha), List.nil_append]
    rw [select, ← eq_filter_of_sublist hfirst hchosen hperm,
      ← eq_filter_of_sublist hsecond hothers hperm]
  · rintro rfl
    exact isPreferredOrder_select strategies preferred

theorem select_eq_nil_iff {strategies : Strategies} {preferred : String} :
    strategies.select preferred = [] ↔ strategies.registered = [] := by
  rw [← List.length_eq_zero_iff, (isPreferredOrder_select strategies preferred).perm.length_eq,
    List.length_eq_zero_iff]

/-! ## What is left of trying -/

section

variable {α : Type} {answer : Strategy → Option (Except LibraryError α)}

/-- The answer is that the strategy fails. -/
def Fails (answer : Option (Except LibraryError α)) : Prop :=
  ∃ error, answer = some (.error error)

/-- What is left of trying strategies in an order. An answer that never comes is `none`, and no other
strategy is tried then. -/
structure Concludes (deferOnError : Bool) (nobody : LibraryError)
    (answer : Strategy → Option (Except LibraryError α)) (order : List Strategy)
    (result : Option (Except LibraryError α)) : Prop where
  /-- The first strategy has the only word if failures are not deferred. -/
  first : deferOnError = false → ∀ strategy rest, order = strategy :: rest →
    result = answer strategy
  /-- If they are, it is the first strategy that does not fail. -/
  success : deferOnError = true → ∀ front strategy rest, order = front ++ strategy :: rest →
    (∀ other ∈ front, Fails (answer other)) → ¬ Fails (answer strategy) → result = answer strategy
  /-- If all of them fail, it is the last one. -/
  failure : deferOnError = true → ∀ front last, order = front ++ [last] →
    (∀ strategy ∈ order, Fails (answer strategy)) → result = answer last
  /-- In any case one of the strategies has given the answer. -/
  answered : order ≠ [] → ∃ strategy ∈ order, result = answer strategy
  /-- Without any strategy, that is what is said. -/
  unregistered : order = [] → result = some (.error nobody)
  /-- It is said in no other case, unless by a strategy of its own accord. -/
  denied : result = some (.error nobody) → order ≠ [] →
    ∃ strategy ∈ order, answer strategy = some (.error nobody)

theorem attempt_cons_of_error {strategy : Strategy} {error : LibraryError}
    (h : answer strategy = some (.error error)) (deferOnError : Bool) (failure : LibraryError)
    (rest : List Strategy) :
    attempt deferOnError answer failure (strategy :: rest) =
      if deferOnError then attempt deferOnError answer error rest else some (.error error) := by
  rw [attempt, h]
  rfl

theorem attempt_cons_of_not_fails {strategy : Strategy} (h : ¬ Fails (answer strategy))
    (deferOnError : Bool) (failure : LibraryError) (rest : List Strategy) :
    attempt deferOnError answer failure (strategy :: rest) = answer strategy := by
  rw [attempt]
  cases hanswer : answer strategy with
  | none => rfl
  | some result =>
      cases result with
      | ok a => rfl
      | error error => exact absurd ⟨error, hanswer⟩ h

/-- Strategies that fail leave nothing behind but the last failure. -/
theorem attempt_append_of_fails {front : List Strategy}
    (h : ∀ strategy ∈ front, Fails (answer strategy)) (failure : LibraryError)
    (rest : List Strategy) :
    ∃ last, attempt true answer failure (front ++ rest) = attempt true answer last rest := by
  induction front generalizing failure with
  | nil => exact ⟨failure, rfl⟩
  | cons strategy front ih =>
      obtain ⟨⟨error, herror⟩, hfront⟩ := List.forall_mem_cons.1 h
      obtain ⟨last, hlast⟩ := ih hfront error
      refine ⟨last, ?_⟩
      rw [List.cons_append, attempt_cons_of_error herror]
      exact hlast

theorem exists_attempt_eq {order : List Strategy} (h : order ≠ []) (deferOnError : Bool)
    (failure : LibraryError) :
    ∃ strategy ∈ order, attempt deferOnError answer failure order = answer strategy := by
  induction order generalizing failure with
  | nil => exact absurd rfl h
  | cons strategy rest ih =>
      by_cases hfails : Fails (answer strategy)
      · obtain ⟨error, herror⟩ := hfails
        rw [attempt_cons_of_error herror]
        cases deferOnError with
        | false => exact ⟨strategy, List.mem_cons_self, herror.symm⟩
        | true =>
            cases rest with
            | nil => exact ⟨strategy, List.mem_cons_self, herror.symm⟩
            | cons next rest =>
                obtain ⟨other, hother, heq⟩ := ih (List.cons_ne_nil next rest) error
                exact ⟨other, List.mem_cons_of_mem _ hother, heq⟩
      · exact ⟨strategy, List.mem_cons_self, attempt_cons_of_not_fails hfails _ _ rest⟩

theorem attempt_concludes (deferOnError : Bool) (nobody : LibraryError) (order : List Strategy) :
    Concludes deferOnError nobody answer order (attempt deferOnError answer nobody order) where
  first hdefer strategy rest horder := by
    subst hdefer horder
    by_cases hfails : Fails (answer strategy)
    · obtain ⟨error, herror⟩ := hfails
      rw [attempt_cons_of_error herror]
      exact herror.symm
    · exact attempt_cons_of_not_fails hfails _ _ rest
  success hdefer front strategy rest horder hfront hnot := by
    subst hdefer horder
    obtain ⟨last, hlast⟩ := attempt_append_of_fails hfront nobody (strategy :: rest)
    rw [hlast, attempt_cons_of_not_fails hnot]
  failure hdefer front last horder hall := by
    subst hdefer horder
    have hfront : ∀ strategy ∈ front, Fails (answer strategy) :=
      fun strategy hstrategy => hall strategy (List.mem_append_left _ hstrategy)
    obtain ⟨failure, hfailure⟩ := attempt_append_of_fails hfront nobody [last]
    rw [hfailure, attempt_singleton]
  answered hne := exists_attempt_eq hne deferOnError nobody
  unregistered hempty := by
    subst hempty
    rfl
  denied hresult hne := by
    obtain ⟨strategy, hstrategy, heq⟩ := exists_attempt_eq hne deferOnError nobody
    exact ⟨strategy, hstrategy, heq.symm.trans hresult⟩

end

/-! ## Naming and placing -/

theorem some_attempt {α : Type} (deferOnError : Bool) (action : Strategy → Except LibraryError α)
    (failure : LibraryError) (order : List Strategy) :
    some (Id.run (attempt deferOnError (fun strategy => pure (action strategy)) failure order)) =
      attempt deferOnError (fun strategy => some (action strategy)) failure order := by
  induction order generalizing failure with
  | nil => rfl
  | cons strategy rest ih =>
      cases haction : action strategy with
      | ok a => simp [attempt, haction]
      | error error =>
          cases deferOnError with
          | false => simp [attempt, haction]
          | true =>
              rw [attempt_cons_of_error (congrArg some haction), if_pos rfl, ← ih error, attempt,
                haction]
              rfl

/-- The preferred strategies come first, and both naming and placing take the first success in this
order, or the last failure, if failures are deferred, and the word of the first strategy otherwise.
-/
theorem strategies_in_turn (strategies : Strategies) (preferred : String) :
    (∀ order, IsPreferredOrder strategies.registered preferred order ↔
        order = strategies.select preferred) ∧
      (strategies.select preferred = [] ↔ strategies.registered = []) ∧
      (∀ ctx, Concludes strategies.deferOnError (.noStrategy preferred)
        (fun strategy => some (strategy.rename ctx)) (strategies.select preferred)
        (some (strategies.rename preferred ctx))) ∧
      ∀ snapshot filesystem file, Concludes strategies.deferOnError (.noStrategy preferred)
        (fun strategy => strategy.place snapshot filesystem file) (strategies.select preferred)
        (strategies.place preferred snapshot filesystem file) := by
  refine ⟨fun _ => isPreferredOrder_iff, select_eq_nil_iff, fun ctx => ?_, ?_⟩
  · rw [rename, some_attempt]
    exact attempt_concludes _ _ _
  · intro snapshot filesystem file
    exact attempt_concludes _ _ _

/-- A strategy that says the same about all files, and has no place for them. -/
def steady (id : String) (name : Except LibraryError String) : Strategy where
  id := id
  rename _ := name
  place _ _ _ := some (.error (.notPlaced "no place"))

/-- Two strategies with one id, of which only the second one knows a name, and another one between
them. -/
def twins : Strategies where
  registered := [steady "b" (.error (.notNamed "no name")), steady "a" (.ok "a.mkv"),
    steady "b" (.ok "b.mkv")]
  deferOnError := true

theorem strategies_in_turn_twins :
    twins.select "b" = [steady "b" (.error (.notNamed "no name"))] ++
        steady "b" (.ok "b.mkv") :: [steady "a" (.ok "a.mkv")] ∧
      twins.rename "b" sampleContext = .ok "b.mkv" := by
  have horder : twins.select "b" = [steady "b" (.error (.notNamed "no name"))] ++
      steady "b" (.ok "b.mkv") :: [steady "a" (.ok "a.mkv")] := rfl
  obtain ⟨-, -, hrename, -⟩ := strategies_in_turn twins "b"
  refine ⟨horder, Option.some.inj ((hrename sampleContext).success rfl _ _ _ horder ?_ ?_)⟩
  · intro other hother
    rw [List.mem_singleton.1 hother]
    exact ⟨_, rfl⟩
  · rintro ⟨error, herror⟩
    cases herror

/-- A place for any file. -/
def somewhere : Destination :=
  ⟨{ id := 1, path := ⟨"/tv"⟩ }, ⟨"a"⟩⟩

/-- A strategy that waits forever for a place, in front of one that has a place for every file. -/
def stuck : Strategies where
  registered := [{ steady "b" (.ok "b.mkv") with place := fun _ _ _ => none },
    { steady "a" (.ok "a.mkv") with place := fun _ _ _ => some (.ok somewhere) }]
  deferOnError := true

/-- A strategy that says that there is none. -/
def denying : Strategies where
  registered := [steady "b" (.error (.noStrategy "b"))]
  deferOnError := true

/-- The first success is not the result if a strategy in front of it never answers, and a registry
that is not empty can say that there is no strategy. -/
theorem not_first_success_and_nobody_iff :
    (¬ ∀ (strategies : Strategies) (preferred : String) (snapshot : Snapshot)
        (filesystem : Filesystem) (file : MediaFile) (front rest : List Strategy)
        (strategy : Strategy) (destination : Destination),
      strategies.deferOnError = true → strategies.select preferred = front ++ strategy :: rest →
        (∀ other ∈ front, ∀ place, other.place snapshot filesystem file ≠ some (.ok place)) →
        strategy.place snapshot filesystem file = some (.ok destination) →
        strategies.place preferred snapshot filesystem file = some (.ok destination)) ∧
      ¬ ∀ (strategies : Strategies) (preferred : String) (ctx : NamingContext),
        strategies.rename preferred ctx = .error (.noStrategy preferred) ↔
          strategies.registered = [] := by
  constructor
  · intro h
    have hplaced := h stuck "b" {} (VolumeTable.filesystem {}) sampleContext.file
      [stuck.registered[0]] [] stuck.registered[1] somewhere rfl rfl (by simp [stuck]) rfl
    cases hplaced
  · intro h
    cases (h denying "b" sampleContext).1 rfl

end Strategies

end MediaShelf
