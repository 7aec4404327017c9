import PeriodCompare.Proofs.Comparison
import PeriodCompare.Proofs.Splits

set_option autoImplicit false

namespace PeriodCompare

variable {timeout : Duration} {clock : Nat} {flights : List Flight} {pairs : List (Query × Answer)}

namespace Flight

def InTime (timeout : Duration) (clock : Nat) (f : Flight) : Prop :=
  ∃ due, f.due = some due ∧ (due ≤ clock ∨ due < clock + timeout.toNanos)

inductive Fails (timeout : Duration) (clock : Nat) (f : Flight) : Failure → Prop where
  | late (late : ¬ f.InTime timeout clock) :
    Fails timeout clock f (.backendTimeout f.query.text timeout)
  | outcome {e : Failure} (inTime : f.InTime timeout clock) (failed : f.outcome = .error e) :
    Fails timeout clock f e

variable {f : Flight}

theorem doneBy_iff {m : Moment} : f.doneBy m ↔ ∃ due, f.due = some due ∧ m.includes due := by
  simp only [doneBy, Option.any_eq_true]

theorem wait_of_done {m : Moment} (done : f.doneBy m) : f.wait timeout m = (m, f.outcome) := by
  simp only [wait, done, if_true]

theorem wait_of_running {m : Moment} {due : Nat} (running : ¬ f.doneBy m)
    (completes : f.due = some due) (less : due < m.clock + timeout.toNanos) :
    f.wait timeout m = (⟨due, true⟩, f.outcome) := by
  have early : (some due).filter (· < m.clock + timeout.toNanos) = some due := by
    simp [Option.filter, less]
  simp only [wait, if_neg running, completes, early]

theorem not_doneBy_of_late {m : Moment} (late : ¬ f.InTime timeout m.clock) : ¬ f.doneBy m := by
  rw [doneBy_iff]
  rintro ⟨due, completes, early⟩
  exact late ⟨due, completes, .inl (Moment.le_clock early)⟩

theorem wait_of_late {m : Moment} (late : ¬ f.InTime timeout m.clock) :
    f.wait timeout m =
      (if timeout.toNanos = 0 then m else ⟨m.clock + timeout.toNanos, false⟩,
        .error (.backendTimeout f.query.text timeout)) := by
  have never : f.due.filter (· < m.clock + timeout.toNanos) = none := by
    rw [Option.filter_eq_none_iff]
    intro due completes early
    exact late ⟨due, completes, .inr (of_decide_eq_true early)⟩
  simp only [wait, if_neg (not_doneBy_of_late late), never, timedOut]

theorem wait_of_inTime (inTime : f.InTime timeout clock) :
    f.wait timeout ⟨clock, true⟩ = (⟨max clock (f.due.getD 0), true⟩, f.outcome) := by
  obtain ⟨due, completes, bound⟩ := inTime
  rw [completes, Option.getD_some]
  by_cases early : due ≤ clock
  · have done : f.doneBy ⟨clock, true⟩ :=
      doneBy_iff.2 ⟨due, completes, Moment.includes_iff.2 (Nat.lt_succ_of_le early)⟩
    rw [wait_of_done done, max_eq_left early]
  · have running : ¬ f.doneBy ⟨clock, true⟩ := by
      rw [doneBy_iff, completes]
      rintro ⟨_, ⟨⟩, included⟩
      exact early (Moment.le_clock included)
    rw [wait_of_running running completes (bound.resolve_left early),
      max_eq_right (Nat.le_of_not_le early)]

theorem wait_eq_error {e : Failure} :
    (f.wait timeout ⟨clock, true⟩).2 = .error e ↔ f.Fails timeout clock e := by
  constructor
  · intro failed
    by_cases inTime : f.InTime timeout clock
    · rw [wait_of_inTime inTime] at failed
      exact .outcome inTime failed
    · rw [wait_of_late (by exact inTime)] at failed
      exact Except.error.inj failed ▸ .late inTime
  · intro fails
    cases fails with
    | late late => rw [wait_of_late (by exact late)]
    | outcome inTime failed => rw [wait_of_inTime inTime, failed]

theorem not_answered_of_wait {m : Moment} {e : Failure}
    (waited : f.wait timeout ⟨clock, true⟩ = (m, .error e)) :
    ¬ (f.InTime timeout clock ∧ ∃ a, f.outcome = .ok a) := by
  rintro ⟨inTime, a, outcome⟩
  simp [wait_of_inTime inTime, outcome] at waited

theorem of_wait_eq_ok {m : Moment} {a : Answer}
    (waited : f.wait timeout ⟨clock, true⟩ = (m, .ok a)) :
    f.InTime timeout clock ∧ f.outcome = .ok a ∧ m = ⟨max clock (f.due.getD 0), true⟩ := by
  by_cases inTime : f.InTime timeout clock
  · rw [wait_of_inTime inTime, Prod.mk.injEq] at waited
    exact ⟨inTime, waited.2, waited.1.symm⟩
  · rw [wait_of_late (by exact inTime)] at waited
    simp at waited

end Flight

/-- When the next wait begins, after queries that have been waited for since `clock`. -/
def waitedUntil (clock : Nat) (before : List Flight) : Nat :=
  before.foldl (fun clock f => max clock (f.due.getD 0)) clock

def AllInTurn (timeout : Duration) (clock : Nat) (flights : List Flight) : Prop :=
  ∀ before f after, flights = before ++ f :: after →
    f.InTime timeout (waitedUntil clock before) ∧ ∃ a, f.outcome = .ok a

theorem allInTurn_nil : AllInTurn timeout clock [] := by
  intro before f after split
  simp at split

theorem allInTurn_cons {f : Flight} {rest : List Flight} :
    AllInTurn timeout clock (f :: rest) ↔
      (f.InTime timeout clock ∧ ∃ a, f.outcome = .ok a) ∧
        AllInTurn timeout (max clock (f.due.getD 0)) rest :=
  forall_split_cons

theorem allInTurn_of_awaitInTurn {pairs : List (Query × Answer)}
    (answered : (awaitInTurn timeout ⟨clock, true⟩ flights).2 = .ok pairs) :
    AllInTurn timeout clock flights := by
  induction flights generalizing clock pairs with
  | nil => exact allInTurn_nil
  | cons f rest ih =>
    rw [awaitInTurn] at answered
    rcases waited : f.wait timeout ⟨clock, true⟩ with ⟨done, e | a⟩
    · simp [waited] at answered
    · simp only [waited, Checked.map_eq_ok] at answered
      obtain ⟨others, later, -⟩ := answered
      obtain ⟨inTime, outcome, rfl⟩ := Flight.of_wait_eq_ok waited
      exact allInTurn_cons.2 ⟨⟨inTime, a, outcome⟩, ih later⟩

theorem awaitInTurn_eq_error {e : Failure} :
    (awaitInTurn timeout ⟨clock, true⟩ flights).2 = .error e ↔
      ∃ before f after, flights = before ++ f :: after ∧
        AllInTurn timeout clock before ∧ f.Fails timeout (waitedUntil clock before) e := by
  -- Either the first query decides, or it is answered and moves the clock for those behind it.
  induction flights generalizing clock with
  | nil => simp [awaitInTurn]
  | cons f rest ih =>
    rw [exists_split_cons, and_iff_right allInTurn_nil, awaitInTurn]
    simp only [allInTurn_cons]
    have first : f.Fails timeout (waitedUntil clock []) e ↔
        (f.wait timeout ⟨clock, true⟩).2 = .error e := Flight.wait_eq_error.symm
    rw [first]
    rcases waited : f.wait timeout ⟨clock, true⟩ with ⟨done, other | a⟩
    · simp [Flight.not_answered_of_wait waited]
    · obtain ⟨inTime, outcome, rfl⟩ := Flight.of_wait_eq_ok waited
      simp only [Checked.map_eq_error, ih, inTime, outcome, reduceCtorEq, false_or,
        Except.ok.injEq, exists_eq', true_and]
      rfl

theorem exists_awaitInTurn (all : AllInTurn timeout clock flights) :
    ∃ pairs, (awaitInTurn timeout ⟨clock, true⟩ flights).2 = .ok pairs := by
  cases awaited : (awaitInTurn timeout ⟨clock, true⟩ flights).2 with
  | ok pairs => exact ⟨pairs, rfl⟩
  | error e =>
    obtain ⟨before, f, after, split, -, fails⟩ := awaitInTurn_eq_error.1 awaited
    obtain ⟨inTime, a, outcome⟩ := all before f after split
    cases fails with
    | late late => exact absurd inTime late
    | outcome _ failed => simp [outcome] at failed

theorem lastValue_of_answers {pairs : List (Query × Answer)} {q : Query} {a : Answer}
    (all : List.Forall₂ Flight.Answers flights pairs) :
    Table.lastValue q pairs = some a ↔
      ∃ before f after, flights = before ++ f :: after ∧
        f.query = q ∧ f.outcome = .ok a ∧ ∀ g ∈ after, g.query ≠ q := by
  induction all with
  | nil => simp [Table.lastValue]
  | @cons f pair rest others first later ih =>
    rw [exists_split_cons, ← ih, Table.lastValue_cons]
    -- An answer further behind counts instead, and there is one if the query is asked again.
    have nothing : Table.lastValue q others = none ↔ ∀ g ∈ rest, g.query ≠ q := by
      rw [← Table.get?_ofList, ← Option.not_isSome_iff_eq_none, Table.get?_isSome_iff,
        Table.mem_keys_ofList, Flight.queries_of_answers later]
      simp
    rw [← nothing]
    obtain ⟨asked, outcome⟩ := first
    cases known : Table.lastValue q others with
    | none => simp [asked, outcome]
    | some other => simp

namespace World

variable {σ : Type} {backend : Backend σ} {w : World σ} {queries : List Query}

theorem run_of_pos (positive : 0 < timeout.toNanos)
    {await : List Flight → Moment × Checked (List (Query × Answer))} (empty : (await []).2 = .ok []) :
    (w.run backend timeout await queries).1 =
      (await (w.startAll backend queries).1).2.map .ofList := by
  cases queries with
  | nil => simp [run, startAll, empty, Table.ofList, Table.insertAll]
  | cons q rest => simp only [run, Nat.ne_of_gt positive, if_false]

theorem run_of_zero (zero : timeout.toNanos = 0)
    (await : List Flight → Moment × Checked (List (Query × Answer))) (q : Query)
    (rest : List Query) :
    (w.run backend timeout await (q :: rest)).1 = .error (.backendTimeout q.text timeout) := by
  simp [run, zero]

theorem allInTurn_of_runInTurn {answers : Answers}
    (succeeded : (w.runInTurn backend timeout queries).1 = .ok answers) :
    AllInTurn timeout 0 (w.startAll backend queries).1 := by
  rcases Nat.eq_zero_or_pos timeout.toNanos with zero | positive
  · cases queries with
    | nil => exact allInTurn_nil
    | cons q rest => simp [runInTurn, run_of_zero zero] at succeeded
  · rw [runInTurn, run_of_pos positive rfl, Checked.map_eq_ok] at succeeded
    obtain ⟨pairs, awaited, -⟩ := succeeded
    exact allInTurn_of_awaitInTurn awaited

theorem runInTurn_eq
    (untied : ∀ before f after, (w.startAll backend queries).1 = before ++ f :: after →
      f.due ≠ some (waitedUntil 0 before + timeout.toNanos)) :
    (w.runInTurn backend timeout queries).1 =
      (awaitInTurn timeout .start (w.startAll backend queries).1).2.map .ofList := by
  rcases Nat.eq_zero_or_pos timeout.toNanos with zero | positive
  · cases queries with
    | nil => rfl
    | cons q rest =>
      -- A query that is due at once would be due just when the wait of no length ends.
      have late : ¬ (w.start backend q).1.InTime timeout 0 := by
        rintro ⟨due, completes, bound⟩
        have tied : due = 0 := by omega
        refine untied [] (w.start backend q).1 _ rfl ?_
        rw [completes, tied, zero]
        rfl
      have failed := awaitInTurn_eq_error.2
        ⟨[], _, (w.start backend q).2.startAll backend rest |>.1, rfl, allInTurn_nil, .late late⟩
      rw [start_query] at failed
      rw [runInTurn, run_of_zero zero]
      exact (congrArg (Except.map Table.ofList) failed).symm
  · exact run_of_pos positive rfl

theorem exists_runInTurn_of_pos (positive : 0 < timeout.toNanos)
    (all : AllInTurn timeout 0 (w.startAll backend queries).1) :
    ∃ pairs, (awaitInTurn timeout .start (w.startAll backend queries).1).2 = .ok pairs ∧
      (w.runInTurn backend timeout queries).1 = .ok (.ofList pairs) := by
  obtain ⟨pairs, awaited⟩ := exists_awaitInTurn all
  refine ⟨pairs, awaited, ?_⟩
  rw [runInTurn, run_of_pos positive rfl]
  exact congrArg (Except.map Table.ofList) awaited

theorem exists_runInTurn
    (untied : ∀ before f after, (w.startAll backend queries).1 = before ++ f :: after →
      f.due ≠ some (waitedUntil 0 before + timeout.toNanos)) :
    (∃ answers, (w.runInTurn backend timeout queries).1 = .ok answers) ↔
      AllInTurn timeout 0 (w.startAll backend queries).1 := by
  constructor
  · rintro ⟨answers, succeeded⟩
    exact allInTurn_of_runInTurn succeeded
  · intro all
    obtain ⟨pairs, awaited⟩ := exists_awaitInTurn all
    exact ⟨_, (runInTurn_eq untied).trans (congrArg (Except.map Table.ofList) awaited)⟩

theorem runInTurn_eq_error
    (untied : ∀ before f after, (w.startAll backend queries).1 = before ++ f :: after →
      f.due ≠ some (waitedUntil 0 before + timeout.toNanos)) {e : Failure} :
    (w.runInTurn backend timeout queries).1 = .error e ↔
      ∃ before f after, (w.startAll backend queries).1 = before ++ f :: after ∧
        AllInTurn timeout 0 before ∧ f.Fails timeout (waitedUntil 0 before) e := by
  rw [runInTurn_eq untied, Checked.map_eq_error]
  exact awaitInTurn_eq_error

theorem get?_of_runInTurn {answers : Answers}
    (succeeded : (w.runInTurn backend timeout queries).1 = .ok answers) :
    answers.keys = distinct queries ∧
      ∀ q a, answers.get? q = some a ↔
        ∃ before f after, (w.startAll backend queries).1 = before ++ f :: after ∧
          f.query = q ∧ f.outcome = .ok a ∧ ∀ g ∈ after, g.query ≠ q := by
  obtain ⟨pairs, rfl, all⟩ := forall₂_of_run forall₂_of_awaitInTurn succeeded
  constructor
  · rw [Table.keys_ofList, Flight.queries_of_answers all, startAll_queries]
  · intro q a
    rw [Table.get?_ofList, lastValue_of_answers all]

theorem answered_of_compareBy {s : Service σ} {order : Answers → List (Query × Answer)}
    {r : Request} {c : Comparison} (succeeded : (s.compareBy order w r).1 = .ok c) :
    ∃ functions windows asked, s.bucketPlan r = .ok (functions, windows, asked) ∧
      ∀ f ∈ (w.startAll s.backend asked).1, f.due.isSome ∧ ∃ a, f.outcome = .ok a := by
  obtain ⟨functions, windows, asked, answers, planned, ran, -⟩ :=
    Service.compareBy_eq_ok.1 succeeded
  refine ⟨functions, windows, asked, planned, fun f member => ?_⟩
  obtain ⟨before, after, split⟩ := List.append_of_mem member
  obtain ⟨⟨due, completes, -⟩, answered⟩ := allInTurn_of_runInTurn ran before f after split
  exact ⟨by simp [completes], answered⟩

theorem runInTurn_outcome (backend : Backend σ) (w : World σ) (timeout : Duration)
    (queries : List Query)
    (untied : ∀ before f after, (w.startAll backend queries).1 = before ++ f :: after →
      f.due ≠ some (waitedUntil 0 before + timeout.toNanos)) :
    let flights := (w.startAll backend queries).1
    let result := (w.runInTurn backend timeout queries).1
    flights.map (·.query) = queries ∧
    ((∃ answers, result = .ok answers) ↔ AllInTurn timeout 0 flights) ∧
    (∀ answers, result = .ok answers → answers.keys = distinct queries ∧
      ∀ q a, answers.get? q = some a ↔ ∃ before f after, flights = before ++ f :: after ∧
        f.query = q ∧ f.outcome = .ok a ∧ ∀ g ∈ after, g.query ≠ q) ∧
    (∀ e, result = .error e ↔ ∃ before f after, flights = before ++ f :: after ∧
      AllInTurn timeout 0 before ∧ f.Fails timeout (waitedUntil 0 before) e) ∧
    ∀ (s : Service σ) (order : Answers → List (Query × Answer)) (r : Request) (c : Comparison),
      (s.compareBy order w r).1 = .ok c →
        ∃ functions windows asked, s.bucketPlan r = .ok (functions, windows, asked) ∧
          ∀ f ∈ (w.startAll s.backend asked).1, f.due.isSome ∧ ∃ a, f.outcome = .ok a := by
  intro flights result
  refine ⟨startAll_queries backend w queries, exists_runInTurn untied, ?_, ?_, ?_⟩
  · intro answers succeeded
    exact get?_of_runInTurn succeeded
  · intro e
    exact runInTurn_eq_error untied
  · intro s order r c succeeded
    exact answered_of_compareBy succeeded

/-- What becomes of the queries for five buckets: two are answered, the second within the wait that
begins with the first answer. The third panics, the fourth has failed long before, and the last is
never answered. -/
def stumbling (q : Query) : Course :=
  match q.bucket with
  | 0 => ⟨some 900000000, .ok .empty⟩
  | 1 => ⟨some 1800000000, .ok .empty⟩
  | 2 => ⟨some 2500000000, .error (.backend (.panicked "task 4 panicked"))⟩
  | 3 => ⟨some 100000000, .error (.backend (.other "early"))⟩
  | _ => ⟨none, .ok .empty⟩

theorem runInTurn_outcome_stumbling :
    let queries := bucketTotals [0, 1, 2, 3, 4]
    (∀ before f after, (World.startAll (.pure stumbling) ⟨(), none, []⟩ queries).1 =
      before ++ f :: after → f.due ≠ some (waitedUntil 0 before + (Duration.ofSecs 1).toNanos)) ∧
    (World.runInTurn (.pure stumbling) (.ofSecs 1) ⟨(), none, []⟩ queries).1 =
      .error (.backend (.panicked "task 4 panicked")) := by
  intro queries
  let flight (q : Query) : Flight := ⟨q, (stumbling q).latency, (stumbling q).outcome⟩
  have flights : (World.startAll (.pure stumbling) ⟨(), none, []⟩ queries).1 =
      (bucketTotals [0, 1]).map flight ++ (bucketTotals [2, 3, 4]).map flight := rfl
  have untied : ∀ before f after, (World.startAll (.pure stumbling) ⟨(), none, []⟩ queries).1 =
      before ++ f :: after → f.due ≠ some (waitedUntil 0 before + (Duration.ofSecs 1).toNanos) := by
    rw [flights]
    simp only [bucketTotals, List.map_cons, List.map_nil, List.cons_append, List.nil_append,
      forall_split_cons]
    exact ⟨by decide, by decide, by decide, by decide, by decide, by simp⟩
  have inTime : AllInTurn (.ofSecs 1) 0 ((bucketTotals [0, 1]).map flight) :=
    allInTurn_cons.2 ⟨⟨⟨_, rfl, .inr (by decide)⟩, _, rfl⟩,
      allInTurn_cons.2 ⟨⟨⟨_, rfl, .inr (by decide)⟩, _, rfl⟩, allInTurn_nil⟩⟩
  obtain ⟨-, -, -, failure, -⟩ := runInTurn_outcome (.pure stumbling) ⟨(), none, []⟩ (.ofSecs 1)
    queries untied
  exact ⟨untied, (failure _).2 ⟨_, _, _, flights, inTime,
    .outcome ⟨_, rfl, .inr (by decide)⟩ rfl⟩⟩

end World

end PeriodCompare
