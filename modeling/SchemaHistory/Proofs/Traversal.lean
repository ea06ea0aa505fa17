import Mathlib.Data.List.Forall2

/-!
Runs that can fail, one after the other. A sequence of runs succeeds when each of them does, and it
fails with the first failure; what stands after that has no influence.
-/

namespace SchemaHistory.Traversal

set_option autoImplicit false

variable {α β ε : Type}

theorem bind_eq_ok {run : Except ε α} {next : α → Except ε β} {result : β} :
    run >>= next = .ok result ↔ ∃ value, run = .ok value ∧ next value = .ok result := by
  cases run <;> simp [bind, Except.bind]

theorem bind_eq_error {run : Except ε α} {next : α → Except ε β} {error : ε} :
    run >>= next = .error error ↔
      run = .error error ∨ ∃ value, run = .ok value ∧ next value = .error error := by
  cases run <;> simp [bind, Except.bind]

theorem toOption_eq_some {run : Except ε α} {value : α} :
    run.toOption = some value ↔ run = .ok value := by
  cases run <;> simp [Except.toOption]

theorem bind_eq_of_ok {run : Except ε α} {next other : α → Except ε β}
    (same : ∀ value, run = .ok value → next value = other value) : run >>= next = run >>= other := by
  cases run with
  | error error => rfl
  | ok value => exact same value rfl

/-- Some item fails with this error, and all items before it succeed. -/
def FirstFailure (run : α → Except ε β) (items : List α) (error : ε) : Prop :=
  ∃ before item after, items = before ++ item :: after ∧
    (∀ earlier ∈ before, ∃ result, run earlier = .ok result) ∧ run item = .error error

theorem no_failure_of_nil (run : α → Except ε β) (error : ε) : ¬FirstFailure run [] error := by
  intro failure
  rcases failure with ⟨before, item, after, split, -⟩
  simp at split

theorem first_failure_cons {run : α → Except ε β} {head : α} {rest : List α} {error : ε} :
    FirstFailure run (head :: rest) error ↔
      run head = .error error ∨
        (∃ result, run head = .ok result) ∧ FirstFailure run rest error := by
  constructor
  · intro failure
    rcases failure with ⟨before, item, after, split, succeeds, fails⟩
    cases before with
    | nil =>
        obtain ⟨rfl, -⟩ := List.cons.inj split
        exact Or.inl fails
    | cons first before =>
        obtain ⟨rfl, later⟩ := List.cons.inj split
        refine Or.inr ⟨succeeds head List.mem_cons_self, before, item, after, later, ?_, fails⟩
        intro earlier member
        exact succeeds earlier (List.mem_cons_of_mem head member)
  · intro failure
    rcases failure with fails | ⟨headSucceeds, before, item, after, rfl, succeeds, fails⟩
    · exact ⟨[], head, rest, rfl, by simp, fails⟩
    · refine ⟨head :: before, item, after, rfl, ?_, fails⟩
      intro earlier member
      rcases List.mem_cons.1 member with rfl | inside
      · exact headSucceeds
      · exact succeeds earlier inside

theorem first_failure_at {run : α → Except ε β} {items : List α} {error : ε} :
    FirstFailure run items error ↔
      ∃ (index : Nat) (item : α), items[index]? = some item ∧ run item = .error error ∧
        ∀ fewer < index, ∀ earlier, items[fewer]? = some earlier →
          ∃ result, run earlier = .ok result := by
  induction items with
  | nil => simp [no_failure_of_nil]
  | cons head rest ih =>
      rw [first_failure_cons, ih]
      constructor
      · intro failure
        rcases failure with fails | ⟨headSucceeds, index, item, found, fails, succeeds⟩
        · exact ⟨0, head, rfl, fails, by simp⟩
        · refine ⟨index + 1, item, found, fails, ?_⟩
          intro fewer less earlier isEarlier
          cases fewer with
          | zero =>
              obtain rfl := Option.some.inj isEarlier
              exact headSucceeds
          | succ fewer => exact succeeds fewer (Nat.lt_of_succ_lt_succ less) earlier isEarlier
      · intro failure
        rcases failure with ⟨index, item, found, fails, succeeds⟩
        cases index with
        | zero =>
            obtain rfl := Option.some.inj found
            exact Or.inl fails
        | succ index =>
            refine Or.inr ⟨succeeds 0 (Nat.succ_pos index) head rfl, index, item, found, fails, ?_⟩
            intro fewer less earlier isEarlier
            exact succeeds (fewer + 1) (Nat.succ_lt_succ less) earlier isEarlier

theorem item_of_first_failure {run : α → Except ε β} {items : List α} {error : ε}
    (failure : FirstFailure run items error) : ∃ item ∈ items, run item = .error error := by
  obtain ⟨before, item, after, rfl, -, fails⟩ := failure
  exact ⟨item, by simp, fails⟩

theorem mapM_eq_ok {run : α → Except ε β} {items : List α} {results : List β} :
    items.mapM run = .ok results ↔
      List.Forall₂ (fun item result => run item = .ok result) items results := by
  induction items generalizing results with
  | nil => cases results <;> simp [pure, Except.pure]
  | cons head rest ih =>
      rw [List.mapM_cons]
      simp only [bind_eq_ok, ih, pure, Except.pure, Except.ok.injEq]
      constructor
      · intro ran
        rcases ran with ⟨result, headSucceeds, later, laterSucceed, rfl⟩
        exact List.Forall₂.cons headSucceeds laterSucceed
      · intro succeed
        cases succeed with
        | cons headSucceeds laterSucceed =>
            exact ⟨_, headSucceeds, _, laterSucceed, rfl⟩

theorem mapM_eq_error {run : α → Except ε β} {items : List α} {error : ε} :
    items.mapM run = .error error ↔ FirstFailure run items error := by
  induction items with
  | nil => simp [pure, Except.pure, no_failure_of_nil]
  | cons head rest ih =>
      rw [List.mapM_cons, first_failure_cons, ← ih, bind_eq_error]
      refine or_congr Iff.rfl ?_
      simp [bind_eq_error, pure, Except.pure]

/-- Runs that do the same on items in the same places do the same on all of them. -/
theorem mapM_congr_of_pairs {α' : Type} {paired : α → α' → Prop} {run : α → Except ε β}
    {other : α' → Except ε β}
    (same : ∀ item otherItem, paired item otherItem → run item = other otherItem)
    {items : List α} {others : List α'} (pairs : List.Forall₂ paired items others) :
    items.mapM run = others.mapM other := by
  induction pairs with
  | nil => rfl
  | cons headPaired _ ih =>
      have sameHead := same _ _ headPaired
      rw [List.mapM_cons, List.mapM_cons, sameHead, ih]

theorem mapM_congr {run other : α → Except ε β} {items : List α}
    (same : ∀ item ∈ items, run item = other item) : items.mapM run = items.mapM other := by
  have pairs : List.Forall₂ (fun item otherItem => run item = other otherItem) items items :=
    List.forall₂_same.2 same
  exact mapM_congr_of_pairs (fun _ _ sameRun => sameRun) pairs

theorem mapM_append_eq_ok {run : α → Except ε β} {items others : List α} {results : List β} :
    (items ++ others).mapM run = .ok results ↔
      ∃ first second, items.mapM run = .ok first ∧ others.mapM run = .ok second ∧
        results = first ++ second := by
  rw [List.mapM_append]
  simp only [bind_eq_ok, pure, Except.pure, Except.ok.injEq]
  constructor
  · intro ran
    rcases ran with ⟨first, firstRan, second, secondRan, rfl⟩
    exact ⟨first, second, firstRan, secondRan, rfl⟩
  · intro holds
    rcases holds with ⟨first, second, firstRan, secondRan, rfl⟩
    exact ⟨first, firstRan, second, secondRan, rfl⟩

theorem map_eq_of_results {γ : Type} {related : α → β → Prop} {ofItem : α → γ} {ofResult : β → γ}
    (same : ∀ item result, related item result → ofResult result = ofItem item) {items : List α}
    {results : List β} (pairwise : List.Forall₂ related items results) :
    results.map ofResult = items.map ofItem := by
  induction pairwise with
  | nil => rfl
  | cons headRelated _ ih => rw [List.map_cons, List.map_cons, same _ _ headRelated, ih]

theorem forall₂_at {related : α → β → Prop} {items : List α} {results : List β} :
    List.Forall₂ related items results ↔
      items.length = results.length ∧ ∀ (index : Nat) (item : α) (result : β),
        items[index]? = some item → results[index]? = some result → related item result := by
  rw [List.forall₂_iff_get]
  apply and_congr_right
  intro _
  constructor
  · intro each index item result isItem isResult
    obtain ⟨itemBound, rfl⟩ := List.getElem?_eq_some_iff.1 isItem
    obtain ⟨resultBound, rfl⟩ := List.getElem?_eq_some_iff.1 isResult
    exact each index itemBound resultBound
  · intro each index itemBound resultBound
    exact each index _ _ (List.getElem?_eq_getElem itemBound) (List.getElem?_eq_getElem resultBound)

theorem exists_item_of_result {related : α → β → Prop} {items : List α} {results : List β}
    (pairwise : List.Forall₂ related items results) {result : β} (member : result ∈ results) :
    ∃ item ∈ items, related item result := by
  induction pairwise with
  | nil => simp at member
  | @cons head _ rest _ headRelated _ ih =>
      rcases List.mem_cons.1 member with rfl | inside
      · exact ⟨head, List.mem_cons_self, headRelated⟩
      · obtain ⟨item, itemMember, itemRelated⟩ := ih inside
        exact ⟨item, List.mem_cons_of_mem head itemMember, itemRelated⟩

/-- Results stand pairwise in a relation when the items from which they come stand in one that implies
it. -/
theorem pairwise_of_items {related : α → β → Prop} {before : α → α → Prop}
    {resultBefore : β → β → Prop}
    (carries : ∀ item other result otherResult, related item result → related other otherResult →
      before item other → resultBefore result otherResult)
    {items : List α} {results : List β} (pairwise : List.Forall₂ related items results)
    (ordered : items.Pairwise before) : results.Pairwise resultBefore := by
  induction pairwise with
  | nil => exact List.Pairwise.nil
  | cons headRelated restRelated ih =>
      obtain ⟨headBefore, restOrdered⟩ := List.pairwise_cons.1 ordered
      refine List.pairwise_cons.2 ⟨?_, ih restOrdered⟩
      intro result member
      obtain ⟨item, itemMember, itemRelated⟩ := exists_item_of_result restRelated member
      exact carries _ item _ result headRelated itemRelated (headBefore item itemMember)

section Agreement

variable {α' γ β' γ' : Type}

/-- Both runs succeed, with results that stand in the relation, or both fail with the same error. -/
inductive Agree (related : β → γ → Prop) : Except ε β → Except ε γ → Prop where
  | ok {result : β} {other : γ} (holds : related result other) : Agree related (.ok result) (.ok other)
  | error (error : ε) : Agree related (.error error) (.error error)

variable {related : β → γ → Prop} {further : β' → γ' → Prop} {run : Except ε β} {other : Except ε γ}

theorem Agree.of_self {related : β → β → Prop} (holds : ∀ result, related result result)
    (run : Except ε β) : Agree related run run := by
  cases run with
  | error error => exact .error error
  | ok result => exact .ok (holds result)

theorem Agree.of_map (run : Except ε β) (convert : β → γ) :
    Agree (fun result other => other = convert result) run (run.map convert) := by
  cases run with
  | error error => exact .error error
  | ok result => exact .ok rfl

theorem Agree.imp {weaker : β → γ → Prop} (agree : Agree related run other)
    (holds : ∀ result otherResult, run = .ok result → other = .ok otherResult →
      related result otherResult → weaker result otherResult) : Agree weaker run other := by
  cases agree with
  | error error => exact .error error
  | ok isRelated => exact .ok (holds _ _ rfl rfl isRelated)

theorem Agree.bind {next : β → Except ε β'} {otherNext : γ → Except ε γ'}
    (agree : Agree related run other)
    (follows : ∀ result otherResult, run = .ok result → other = .ok otherResult →
      related result otherResult → Agree further (next result) (otherNext otherResult)) :
    Agree further (run >>= next) (other >>= otherNext) := by
  cases agree with
  | error error => exact .error error
  | ok holds => exact follows _ _ rfl rfl holds

theorem Agree.bind_eq {next : β → Except ε β'} {otherNext : γ → Except ε β'}
    (agree : Agree related run other)
    (same : ∀ result otherResult, run = .ok result → other = .ok otherResult →
      related result otherResult → next result = otherNext otherResult) :
    run >>= next = other >>= otherNext := by
  cases agree with
  | error error => rfl
  | ok holds => exact same _ _ rfl rfl holds

theorem Agree.bind_of_run {run : Except ε α} {next : α → Except ε β} {otherNext : α → Except ε γ}
    (follows : ∀ result, run = .ok result → Agree related (next result) (otherNext result)) :
    Agree related (run >>= next) (run >>= otherNext) := by
  cases run with
  | error error => exact .error error
  | ok result => exact follows result rfl

theorem Agree.mapM {paired : α → α' → Prop} {run : α → Except ε β} {other : α' → Except ε γ}
    (agree : ∀ item otherItem, paired item otherItem → Agree related (run item) (other otherItem))
    {items : List α} {others : List α'} (pairs : List.Forall₂ paired items others) :
    Agree (List.Forall₂ related) (items.mapM run) (others.mapM other) := by
  induction pairs with
  | nil => exact .ok .nil
  | cons headPaired _ ih =>
      rw [List.mapM_cons, List.mapM_cons]
      refine (agree _ _ headPaired).bind ?_
      intro result otherResult _ _ headRelated
      refine ih.bind ?_
      intro results otherResults _ _ restRelated
      exact .ok (.cons headRelated restRelated)

theorem Agree.mapM_of_items {run : α → Except ε β} {other : α → Except ε γ} {items : List α}
    (agree : ∀ item ∈ items, Agree related (run item) (other item)) :
    Agree (List.Forall₂ related) (items.mapM run) (items.mapM other) := by
  have pairs : List.Forall₂ (fun item otherItem => Agree related (run item) (other otherItem))
      items items := List.forall₂_same.2 agree
  exact Agree.mapM (fun _ _ agrees => agrees) pairs

end Agreement

end SchemaHistory.Traversal
