import PeriodCompare.Proofs.InTurn

set_option autoImplicit false

namespace PeriodCompare

variable {timeout : Duration} {clock : Nat} {flights : List Flight}

namespace Flight

def AnsweredBefore (timeout : Duration) (f : Flight) : Prop :=
  ∃ due a, f.due = some due ∧ due < timeout.toNanos ∧ f.outcome = .ok a

inductive FailsAt (timeout : Duration) (f : Flight) : Nat → Failure → Prop where
  | outcome {due : Nat} {e : Failure} (completes : f.due = some due)
    (inTime : due < timeout.toNanos) (failed : f.outcome = .error e) : FailsAt timeout f due e
  | late (late : ∀ due, f.due = some due → timeout.toNanos ≤ due) :
    FailsAt timeout f timeout.toNanos (.backendTimeout f.query.text timeout)

variable {f : Flight}

theorem failure?_of_late (late : ∀ due, f.due = some due → timeout.toNanos ≤ due) :
    f.failure? timeout = some (timeout.toNanos, .backendTimeout f.query.text timeout) := by
  have missed : f.due.filter (· < timeout.toNanos) = none := by
    simpa [Option.filter_eq_none_iff] using late
  simp [failure?, missed, timedOut]

theorem inTime_or_late (timeout : Duration) (f : Flight) :
    (∃ due, f.due = some due ∧ due < timeout.toNanos) ∨
      ∀ due, f.due = some due → timeout.toNanos ≤ due := by
  by_cases inTime : ∃ due, f.due = some due ∧ due < timeout.toNanos
  · exact .inl inTime
  · exact .inr fun due completes => Nat.le_of_not_lt fun less => inTime ⟨due, completes, less⟩

theorem inTime_zero (positive : 0 < timeout.toNanos) :
    f.InTime timeout 0 ↔ ∃ due, f.due = some due ∧ due < timeout.toNanos := by
  unfold InTime
  refine exists_congr fun due => and_congr_right fun _ => ?_
  omega

theorem answeredBefore_iff (positive : 0 < timeout.toNanos) :
    f.AnsweredBefore timeout ↔ f.InTime timeout 0 ∧ ∃ a, f.outcome = .ok a := by
  rw [inTime_zero positive]
  constructor
  · rintro ⟨due, a, completes, inTime, outcome⟩
    exact ⟨⟨due, completes, inTime⟩, a, outcome⟩
  · rintro ⟨⟨due, completes, inTime⟩, a, outcome⟩
    exact ⟨due, a, completes, inTime, outcome⟩

theorem fails_zero (positive : 0 < timeout.toNanos) {e : Failure} :
    f.Fails timeout 0 e ↔ ∃ moment, f.FailsAt timeout moment e := by
  constructor
  · intro fails
    cases fails with
    | late late =>
      refine ⟨_, .late fun due completes => Nat.le_of_not_lt fun less => late ?_⟩
      exact (inTime_zero positive).2 ⟨due, completes, less⟩
    | outcome inTime failed =>
      obtain ⟨due, completes, inTime⟩ := (inTime_zero positive).1 inTime
      exact ⟨due, .outcome completes inTime failed⟩
  · rintro ⟨moment, fails⟩
    cases fails with
    | outcome completes inTime failed =>
      exact .outcome ((inTime_zero positive).2 ⟨_, completes, inTime⟩) failed
    | late late =>
      refine .late fun inTime => ?_
      obtain ⟨due, completes, less⟩ := (inTime_zero positive).1 inTime
      exact Nat.not_lt.2 (late due completes) less

theorem failsAt_of_zero (zero : timeout.toNanos = 0) {moment : Nat} {e : Failure} :
    f.FailsAt timeout moment e ↔ moment = 0 ∧ e = .backendTimeout f.query.text timeout := by
  constructor
  · intro fails
    cases fails with
    | outcome _ inTime _ => omega
    | late _ => exact ⟨zero, rfl⟩
  · rintro ⟨rfl, rfl⟩
    have late : f.FailsAt timeout timeout.toNanos (.backendTimeout f.query.text timeout) :=
      .late (by simp [zero])
    rwa [zero] at late

theorem failure?_eq_some {moment : Nat} {e : Failure} :
    f.failure? timeout = some (moment, e) ↔ f.FailsAt timeout moment e := by
  constructor
  · intro failed
    rcases inTime_or_late timeout f with ⟨due, completes, inTime⟩ | late
    · rw [failure?_of_inTime completes inTime, Option.map_eq_some_iff] at failed
      obtain ⟨_, failed, same⟩ := failed
      obtain ⟨rfl, rfl⟩ := Prod.mk.inj same
      exact .outcome completes inTime (Checked.failure?_eq_some.1 failed)
    · rw [failure?_of_late late] at failed
      obtain ⟨rfl, rfl⟩ := Prod.mk.inj (Option.some.inj failed)
      exact .late late
  · intro fails
    cases fails with
    | outcome completes inTime failed =>
      rw [failure?_of_inTime completes inTime, Checked.failure?_eq_some.2 failed]
      rfl
    | late late => exact failure?_of_late late

theorem failure?_eq_none : f.failure? timeout = none ↔ f.AnsweredBefore timeout := by
  constructor
  · intro nothing
    rcases inTime_or_late timeout f with ⟨due, completes, inTime⟩ | late
    · rw [failure?_of_inTime completes inTime, Option.map_eq_none_iff, Checked.failure?_eq_none]
        at nothing
      obtain ⟨a, outcome⟩ := nothing
      exact ⟨due, a, completes, inTime, outcome⟩
    · simp [failure?_of_late late] at nothing
  · rintro ⟨due, a, completes, inTime, outcome⟩
    rw [failure?_of_inTime completes inTime, Checked.failure?_eq_none.2 ⟨a, outcome⟩]
    rfl

end Flight

theorem earliest_eq_some {failures : List (Nat × Failure)} {best : Nat × Failure} :
    earliest failures = some best ↔
      ∃ before p after, failures = before ++ p :: after ∧
        p = best ∧ (∀ other ∈ before, best.1 < other.1) ∧ ∀ other ∈ after, best.1 ≤ other.1 := by
  induction failures generalizing best with
  | nil => simp [earliest]
  | cons first rest ih =>
    rw [exists_split_cons, earliest]
    cases later : earliest rest with
    | none =>
      obtain rfl := eq_nil_of_earliest later
      simp
    | some next =>
      -- The rest has its own least moment, and the first one yields only to a lesser one.
      obtain ⟨before, _, after, split, rfl, below, above⟩ := ih.1 later
      rename_i next
      have least : ∀ other ∈ rest, next.1 ≤ other.1 := by
        rw [split, List.forall_mem_append, List.forall_mem_cons]
        exact ⟨fun other member => Nat.le_of_lt (below other member), Nat.le_refl _, above⟩
      have inRest : (∃ before p after, rest = before ++ p :: after ∧
          p = best ∧ (∀ other ∈ first :: before, best.1 < other.1) ∧
            ∀ other ∈ after, best.1 ≤ other.1) ↔ next = best ∧ best.1 < first.1 := by
        constructor
        · rintro ⟨before, p, after, split, same, below, above⟩
          rw [List.forall_mem_cons] at below
          have found := ih.2 ⟨before, p, after, split, same, below.2, above⟩
          exact ⟨Option.some.inj (later.symm.trans found), below.1⟩
        · rintro ⟨rfl, less⟩
          exact ⟨before, _, after, split, rfl, List.forall_mem_cons.2 ⟨less, below⟩, above⟩
      rw [inRest]
      by_cases less : next.1 < first.1
      · simp only [less, if_true, Option.some.injEq]
        constructor
        · rintro rfl
          exact .inr ⟨rfl, less⟩
        · rintro (⟨rfl, -, above⟩ | ⟨same, -⟩)
          · exact absurd (above next (by simp [split])) (Nat.not_le_of_lt less)
          · exact same
      · simp only [less, if_false, Option.some.injEq]
        constructor
        · rintro rfl
          have notLess := Nat.le_of_not_lt less
          exact .inl ⟨rfl, by simp, fun other member => notLess.trans (least other member)⟩
        · rintro (⟨same, -⟩ | ⟨rfl, sooner⟩)
          · exact same
          · exact absurd sooner less

def NoneSooner (timeout : Duration) (before after : List Flight) (moment : Nat) : Prop :=
  (∀ g ∈ before, ∀ other reason, g.FailsAt timeout other reason → moment < other) ∧
    ∀ g ∈ after, ∀ other reason, g.FailsAt timeout other reason → moment ≤ other

theorem earliest_failure {moment : Nat} {e : Failure} :
    earliest (flights.filterMap (·.failure? timeout)) = some (moment, e) ↔
      ∃ before f after, flights = before ++ f :: after ∧ f.FailsAt timeout moment e ∧
        NoneSooner timeout before after moment := by
  have compares (r : Nat → Nat → Prop) (l : List Flight) :
      (∀ p ∈ l.filterMap (·.failure? timeout), r moment p.1) ↔
        ∀ g ∈ l, ∀ other reason, g.FailsAt timeout other reason → r moment other := by
    simp only [List.mem_filterMap, forall_exists_index, and_imp, ← Flight.failure?_eq_some]
    constructor
    · intro each g member other reason failed
      exact each _ g member failed
    · intro each p g member failed
      exact each g member p.1 p.2 failed
  rw [earliest_eq_some]
  simp only [NoneSooner, ← compares]
  constructor
  · rintro ⟨before, p, after, split, rfl, below, above⟩
    obtain ⟨early, rest, rfl, rfl, fromHere⟩ := List.filterMap_eq_append_iff.1 split
    obtain ⟨answered, f, late, rfl, silent, failed, rfl⟩ := List.filterMap_eq_cons_iff.1 fromHere
    refine ⟨early ++ answered, f, late, by simp, Flight.failure?_eq_some.1 failed, ?_, above⟩
    have nothing : answered.filterMap (·.failure? timeout) = [] :=
      List.filterMap_eq_nil_iff.2 silent
    rw [List.filterMap_append, nothing, List.append_nil]
    exact below
  · rintro ⟨before, f, after, rfl, fails, below, above⟩
    exact ⟨before.filterMap (·.failure? timeout), _, after.filterMap (·.failure? timeout),
      by simp [Flight.failure?_eq_some.2 fails], rfl, below, above⟩

theorem awaitInOrder_eq_error (positive : 0 < timeout.toNanos) {e : Failure} :
    (awaitInOrder timeout clock flights).2 = .error e ↔
      ∃ before f after, flights = before ++ f :: after ∧
        (∀ g ∈ before, g.AnsweredBefore timeout) ∧ ∃ moment, f.FailsAt timeout moment e := by
  simp only [← Flight.fails_zero positive]
  induction flights generalizing clock with
  | nil => simp [awaitInOrder]
  | cons f rest ih =>
    rw [exists_split_cons, awaitInOrder, Moment.start, ← Flight.wait_eq_error]
    simp only [List.forall_mem_cons, Flight.answeredBefore_iff positive]
    rcases waited : f.wait timeout ⟨0, true⟩ with ⟨done, other | a⟩
    · simp [Flight.not_answered_of_wait waited]
    · obtain ⟨inTime, outcome, rfl⟩ := Flight.of_wait_eq_ok waited
      simp only [Checked.map_eq_error, ih, Flight.answeredBefore_iff positive, inTime, outcome,
        reduceCtorEq, false_or, and_false, Except.ok.injEq, exists_eq', true_and]

theorem exists_awaitInOrder (positive : 0 < timeout.toNanos) :
    (∃ pairs, (awaitInOrder timeout clock flights).2 = .ok pairs) ↔
      ∀ f ∈ flights, f.AnsweredBefore timeout := by
  induction flights generalizing clock with
  | nil => simp [awaitInOrder]
  | cons f rest ih =>
    rw [List.forall_mem_cons, Flight.answeredBefore_iff positive, awaitInOrder, Moment.start]
    rcases waited : f.wait timeout ⟨0, true⟩ with ⟨done, e | a⟩
    · simp [Flight.not_answered_of_wait waited]
    · obtain ⟨inTime, outcome, rfl⟩ := Flight.of_wait_eq_ok waited
      simp [← @ih (max clock (max 0 (f.due.getD 0))), inTime, outcome, Checked.map_eq_ok]

theorem exists_awaitEarliest :
    (∃ pairs, (awaitEarliest timeout flights).2 = .ok pairs) ↔
      ∀ f ∈ flights, f.AnsweredBefore timeout := by
  simp only [← Flight.failure?_eq_none]
  rw [← List.filterMap_eq_nil_iff, awaitEarliest]
  cases found : earliest (flights.filterMap (·.failure? timeout)) with
  | none => simp [eq_nil_of_earliest found]
  | some best =>
    have some : flights.filterMap (·.failure? timeout) ≠ [] := by
      intro nothing
      simp [nothing, earliest] at found
    simp [some]

theorem awaitEarliest_eq_error {e : Failure} :
    (awaitEarliest timeout flights).2 = .error e ↔
      ∃ before f after moment, flights = before ++ f :: after ∧ f.FailsAt timeout moment e ∧
        NoneSooner timeout before after moment := by
  have failing : (awaitEarliest timeout flights).2 = .error e ↔
      ∃ moment, earliest (flights.filterMap (·.failure? timeout)) = some (moment, e) := by
    rw [awaitEarliest]
    cases earliest (flights.filterMap (·.failure? timeout)) <;> simp [Prod.ext_iff, eq_comm]
  simp only [failing, earliest_failure]
  constructor
  · rintro ⟨moment, before, f, after, found⟩
    exact ⟨before, f, after, moment, found⟩
  · rintro ⟨before, f, after, moment, found⟩
    exact ⟨moment, before, f, after, found⟩

theorem eq_of_answers {pairs others : List (Query × Answer)}
    (all : List.Forall₂ Flight.Answers flights pairs)
    (again : List.Forall₂ Flight.Answers flights others) : pairs = others := by
  refine List.right_unique_forall₂' ?_ all again
  rintro f ⟨q, a⟩ ⟨other, b⟩ ⟨rfl, outcome⟩ ⟨rfl, outcomeToo⟩
  exact congrArg _ (Except.ok.inj (outcome.symm.trans outcomeToo))

theorem allInTurn_of_answeredBefore (all : ∀ f ∈ flights, f.AnsweredBefore timeout) :
    AllInTurn timeout clock flights := by
  intro before f after split
  obtain ⟨due, a, completes, inTime, outcome⟩ := all f (by simp [split])
  exact ⟨⟨due, completes, .inr (Nat.lt_add_left _ inTime)⟩, a, outcome⟩

theorem exists_awaitTogether (positive : 0 < timeout.toNanos) :
    (∃ pairs, (awaitTogether timeout flights).2 = .ok pairs) ↔
      ∀ f ∈ flights, f.AnsweredBefore timeout := by
  unfold awaitTogether
  split
  · exact exists_awaitEarliest
  · exact exists_awaitInOrder positive

namespace World

variable {σ : Type} {backend : Backend σ} {w : World σ} {queries : List Query}

theorem length_startAll (backend : Backend σ) (w : World σ) (queries : List Query) :
    (w.startAll backend queries).1.length = queries.length := by
  simpa using congrArg List.length (startAll_queries backend w queries)

theorem exists_runTogether :
    (∃ answers, (w.runTogether backend timeout queries).1 = .ok answers) ↔
      ∀ f ∈ (w.startAll backend queries).1, f.AnsweredBefore timeout := by
  rcases Nat.eq_zero_or_pos timeout.toNanos with zero | positive
  · cases queries with
    | nil => simp [runTogether, run, startAll]
    | cons q rest =>
      rw [runTogether, run_of_zero zero, startAll, List.forall_mem_cons]
      simp [Flight.AnsweredBefore, zero]
  · rw [runTogether, run_of_pos positive rfl, ← exists_awaitTogether positive]
    simp [Checked.map_eq_ok]

theorem runTogether_of_small (small : queries.length ≤ maxWatched) :
    (w.runTogether backend timeout queries).1 =
      (awaitEarliest timeout (w.startAll backend queries).1).2.map .ofList := by
  rcases Nat.eq_zero_or_pos timeout.toNanos with zero | positive
  · cases queries with
    | nil => rfl
    | cons q rest =>
      have failed : (awaitEarliest timeout (w.startAll backend (q :: rest)).1).2 =
          .error (.backendTimeout (w.start backend q).1.query.text timeout) := by
        refine awaitEarliest_eq_error.2 ⟨[], _, _, _, rfl, .late (by simp [zero]), by simp, ?_⟩
        simp [zero]
      rw [runTogether, run_of_zero zero, failed, start_query, Checked.map_error]
  · rw [runTogether, run_of_pos positive rfl, awaitTogether, length_startAll, if_pos small]

theorem runTogether_eq_error_of_large (large : maxWatched < queries.length) {e : Failure} :
    (w.runTogether backend timeout queries).1 = .error e ↔
      ∃ before f after, (w.startAll backend queries).1 = before ++ f :: after ∧
        (∀ g ∈ before, g.AnsweredBefore timeout) ∧ ∃ moment, f.FailsAt timeout moment e := by
  rcases Nat.eq_zero_or_pos timeout.toNanos with zero | positive
  · cases queries with
    | nil => simp at large
    | cons q rest =>
      rw [runTogether, run_of_zero zero, startAll, exists_split_cons]
      have unanswered (f : Flight) : ¬ f.AnsweredBefore timeout := by
        simp [Flight.AnsweredBefore, zero]
      simp only [List.forall_mem_cons, unanswered, false_and, and_false, exists_false, or_false]
      simp [Flight.failsAt_of_zero zero, start_query, eq_comm]
  · rw [runTogether, run_of_pos positive rfl, awaitTogether, length_startAll,
      if_neg (Nat.not_le.2 large), Checked.map_eq_error, awaitInOrder_eq_error positive]

theorem runTogether_eq_error_of_small (small : queries.length ≤ maxWatched) {e : Failure} :
    (w.runTogether backend timeout queries).1 = .error e ↔
      ∃ before f after moment, (w.startAll backend queries).1 = before ++ f :: after ∧
        f.FailsAt timeout moment e ∧ NoneSooner timeout before after moment := by
  rw [runTogether_of_small small, Checked.map_eq_error, awaitEarliest_eq_error]

theorem runInTurn_of_runTogether {answers : Answers}
    (succeeded : (w.runTogether backend timeout queries).1 = .ok answers) :
    (w.runInTurn backend timeout queries).1 = .ok answers := by
  obtain ⟨pairs, rfl, all⟩ := forall₂_of_run forall₂_of_awaitTogether succeeded
  rcases Nat.eq_zero_or_pos timeout.toNanos with zero | positive
  · cases queries with
    | nil => exact succeeded
    | cons q rest => simp [runTogether, run_of_zero zero] at succeeded
  · have inTurn : AllInTurn timeout 0 (w.startAll backend queries).1 :=
      allInTurn_of_answeredBefore (exists_runTogether.1 ⟨_, succeeded⟩)
    obtain ⟨others, awaited, again⟩ := exists_runInTurn_of_pos positive inTurn
    rw [again, eq_of_answers all (forall₂_of_awaitInTurn (Prod.ext rfl awaited))]

theorem runTogether_outcome (backend : Backend σ) (w : World σ) (timeout : Duration)
    (queries : List Query) :
    let flights := (w.startAll backend queries).1
    let result := (w.runTogether backend timeout queries).1
    flights.map (·.query) = queries ∧
    ((∃ answers, result = .ok answers) ↔ ∀ f ∈ flights, f.AnsweredBefore timeout) ∧
    (∀ answers, result = .ok answers → (w.runInTurn backend timeout queries).1 = .ok answers) ∧
    (queries.length ≤ maxWatched → ∀ e, result = .error e ↔
      ∃ before f after moment, flights = before ++ f :: after ∧ f.FailsAt timeout moment e ∧
        NoneSooner timeout before after moment) ∧
    (maxWatched < queries.length → ∀ e, result = .error e ↔
      ∃ before f after, flights = before ++ f :: after ∧
        (∀ g ∈ before, g.AnsweredBefore timeout) ∧ ∃ moment, f.FailsAt timeout moment e) := by
  intro flights result
  refine ⟨startAll_queries backend w queries, exists_runTogether, ?_, ?_, ?_⟩
  · intro answers succeeded
    exact runInTurn_of_runTogether succeeded
  · intro small e
    exact runTogether_eq_error_of_small small
  · intro large e
    exact runTogether_eq_error_of_large large

def outrun (q : Query) : Course :=
  match q.bucket with
  | 0 => ⟨some 20000000, .error (.backend (.other "slow"))⟩
  | 30 => ⟨some 5000000, .error (.backend (.other "quick"))⟩
  | _ => ⟨some 0, .ok .empty⟩

theorem runTogether_fails_late :
    let queries := bucketTotals (List.range 31)
    let flights := (World.startAll (.pure outrun) ⟨(), none, []⟩ queries).1
    queries.Nodup ∧ (∀ f ∈ flights, f.due ≠ some (Duration.ofSecs 1).toNanos) ∧
    (∃ before f after moment, flights = before ++ f :: after ∧
      f.FailsAt (.ofSecs 1) moment (.backend (.other "quick")) ∧
        NoneSooner (.ofSecs 1) before after moment) ∧
    (World.runTogether (.pure outrun) (.ofSecs 1) ⟨(), none, []⟩ queries).1 =
      .error (.backend (.other "slow")) := by
  intro queries flights
  have earliest : earliest (flights.filterMap (·.failure? (.ofSecs 1))) =
      some (5000000, .backend (.other "quick")) := rfl
  obtain ⟨before, f, after, found⟩ := earliest_failure.1 earliest
  exact ⟨by decide, by decide, ⟨before, f, after, _, found⟩, rfl⟩

end World

end PeriodCompare
