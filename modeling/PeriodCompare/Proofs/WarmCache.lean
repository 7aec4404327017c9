import PeriodCompare.Proofs.Cache
import PeriodCompare.Proofs.InTurn

set_option autoImplicit false

namespace PeriodCompare

variable {timeout : Duration} {delay : Query → Nat} {respond : Query → Answer}
  {queries : List Query} {clock : Nat}

/-- The first query that is not answered within its wait. -/
def overdue? (timeout : Duration) (delay : Query → Nat) : Nat → List Query → Option Query
  | _, [] => none
  | clock, q :: rest =>
    if delay q < clock + timeout.toNanos then overdue? timeout delay (max clock (delay q)) rest
    else some q

theorem inTime_of_overdue? (allInTime : overdue? timeout delay clock queries = none)
    {before after : List Query} {q : Query} (split : queries = before ++ q :: after) :
    delay q < (before.map delay).foldl max clock + timeout.toNanos := by
  induction before generalizing clock queries with
  | nil =>
    subst split
    by_contra late
    simp [overdue?, show ¬ delay q < clock + timeout.toNanos from late] at allInTime
  | cons first rest ih =>
    subst split
    simp only [List.cons_append, overdue?] at allInTime
    split at allInTime
    · exact ih allInTime rfl
    · simp at allInTime

theorem late_of_overdue? {q : Query} (found : overdue? timeout delay clock queries = some q) :
    ∃ before after, queries = before ++ q :: after ∧
      (before.map delay).foldl max clock + timeout.toNanos ≤ delay q := by
  induction queries generalizing clock with
  | nil => simp [overdue?] at found
  | cons first rest ih =>
    simp only [overdue?] at found
    split at found
    · obtain ⟨before, after, rfl, late⟩ := ih found
      exact ⟨first :: before, after, rfl, late⟩
    next late =>
      obtain rfl := Option.some.inj found
      exact ⟨[], rest, rfl, Nat.le_of_not_lt late⟩

def Flight.promised (delay : Query → Nat) (respond : Query → Answer) (q : Query) : Flight :=
  ⟨q, some (delay q), .ok (respond q)⟩

theorem Flight.inTime_promised (positive : 0 < timeout.toNanos) {q : Query} :
    (promised delay respond q).InTime timeout clock ↔ delay q < clock + timeout.toNanos := by
  constructor
  · rintro ⟨due, completes, bound⟩
    obtain rfl := Option.some.inj completes
    omega
  · intro less
    exact ⟨_, rfl, .inr less⟩

def settle (timeout : Duration) (delay : Query → Nat) (respond : Query → Answer) (clock : Nat)
    (queries : List Query) : Checked (List (Query × Answer)) :=
  match overdue? timeout delay clock queries with
  | none => .ok (queries.map fun q => (q, respond q))
  | some q => .error (.backendTimeout q.text timeout)

theorem settle_eq_ok {pairs : List (Query × Answer)} :
    settle timeout delay respond clock queries = .ok pairs ↔
      overdue? timeout delay clock queries = none ∧
        queries.map (fun q => (q, respond q)) = pairs := by
  unfold settle
  cases overdue? timeout delay clock queries <;> simp

theorem settle_of_inTime
    (inTime : ∀ before q after, queries = before ++ q :: after →
      delay q < (before.map delay).foldl max clock + timeout.toNanos) :
    settle timeout delay respond clock queries = .ok (queries.map fun q => (q, respond q)) := by
  refine settle_eq_ok.2 ⟨?_, rfl⟩
  cases found : overdue? timeout delay clock queries with
  | none => rfl
  | some q =>
    obtain ⟨before, after, split, late⟩ := late_of_overdue? found
    exact absurd (inTime before q after split) (Nat.not_lt.2 late)

theorem exists_late_of_settle
    (notInTime : ¬ ∀ before q after, queries = before ++ q :: after →
      delay q < (before.map delay).foldl max clock + timeout.toNanos) :
    ∃ before q after, queries = before ++ q :: after ∧
      ¬ delay q < (before.map delay).foldl max clock + timeout.toNanos ∧
      settle timeout delay respond clock queries = .error (.backendTimeout q.text timeout) := by
  cases found : overdue? timeout delay clock queries with
  | none => exact absurd (fun before q after => inTime_of_overdue? found) notInTime
  | some q =>
    obtain ⟨before, after, split, late⟩ := late_of_overdue? found
    exact ⟨before, q, after, split, Nat.not_lt.2 late, by simp [settle, found]⟩

theorem awaitInTurn_promised (positive : 0 < timeout.toNanos) :
    (awaitInTurn timeout ⟨clock, true⟩ (queries.map (Flight.promised delay respond))).2 =
      settle timeout delay respond clock queries := by
  induction queries generalizing clock with
  | nil => rfl
  | cons q rest ih =>
    rw [List.map_cons, settle, overdue?]
    by_cases less : delay q < clock + timeout.toNanos
    · have inTime : (Flight.promised delay respond q).InTime timeout clock :=
        (Flight.inTime_promised positive).2 less
      have later := @ih (max clock (delay q))
      rw [settle] at later
      simp only [awaitInTurn, Flight.wait_of_inTime inTime, if_pos less]
      simp only [Flight.promised, Option.getD_some, later]
      cases overdue? timeout delay (max clock (delay q)) rest <;> rfl
    · have late : ¬ (Flight.promised delay respond q).InTime timeout clock :=
        mt (Flight.inTime_promised positive).1 less
      rw [if_neg less]
      exact awaitInTurn_eq_error.2 ⟨[], _, _, rfl, allInTurn_nil, .late late⟩

namespace World

variable {σ : Type} {backend : Backend σ} {w cold warm : World σ} {known : List Query}
  {latency : Query → Nat} {answers : Answers}

theorem startAll_promised
    (fixed : ∀ q ∈ queries, ∀ state,
      (backend.execute state q).1 = ⟨some (latency q), .ok (respond q)⟩)
    (distinct : queries.Nodup)
    (cached : ∀ q ∈ queries, w.cached? q = if q ∈ known then some (respond q) else none) :
    (w.startAll backend queries).1 =
      queries.map (Flight.promised (fun q => if q ∈ known then 0 else latency q) respond) := by
  induction queries generalizing w with
  | nil => rfl
  | cons q rest ih =>
    rw [List.nodup_cons] at distinct
    rw [List.forall_mem_cons] at fixed cached
    have first : (w.start backend q).1 =
        Flight.promised (fun q => if q ∈ known then 0 else latency q) respond q := by
      unfold start Flight.promised
      rw [cached.1]
      by_cases inCache : q ∈ known
      · simp only [inCache, if_true]
      · simp only [inCache, if_false, fixed.1]
    have others : ∀ p ∈ rest, (w.start backend q).2.cached? p =
        if p ∈ known then some (respond p) else none := by
      intro p member
      rw [cached?_start_of_ne (ne_of_mem_of_not_mem member distinct.1).symm, cached.2 p member]
    simp only [startAll, List.map_cons, first, ih fixed.2 distinct.2 others]

theorem runInTurn_promised
    (fixed : ∀ q ∈ queries, ∀ state,
      (backend.execute state q).1 = ⟨some (latency q), .ok (respond q)⟩)
    (distinct : queries.Nodup)
    (cached : ∀ q ∈ queries, w.cached? q = if q ∈ known then some (respond q) else none) :
    (w.runInTurn backend timeout queries).1 =
      (settle timeout (fun q => if q ∈ known then 0 else latency q) respond 0 queries).map
        .ofList := by
  cases queries with
  | nil => rfl
  | cons q rest =>
    simp only [runInTurn, run]
    by_cases zero : timeout.toNanos = 0
    · simp [zero, settle, overdue?]
    · simp only [zero, if_false, startAll_promised fixed distinct cached]
      exact congrArg (Except.map Table.ofList) (awaitInTurn_promised (Nat.pos_of_ne_zero zero))

/-- A batch that succeeds with nothing cached may run into the timeout when some of it is cached:
the cached answers take no time, so that the waits behind them start too early. -/
theorem runInTurn_warm
    (fixed : ∀ q ∈ queries, ∀ state,
      (backend.execute state q).1 = ⟨some (latency q), .ok (respond q)⟩)
    (distinct : queries.Nodup) (empty : ∀ q ∈ queries, cold.cached? q = none)
    (warmed : ∀ q ∈ queries, warm.cached? q = if q ∈ known then some (respond q) else none)
    (succeeded : (cold.runInTurn backend timeout queries).1 = .ok answers) :
    let delay q := if q ∈ known then 0 else latency q
    let InTime (before : List Query) (q : Query) : Prop :=
      delay q < (before.map delay).foldl max 0 + timeout.toNanos
    ((∀ before q after, queries = before ++ q :: after → InTime before q) →
      (warm.runInTurn backend timeout queries).1 = .ok answers) ∧
    (¬ (∀ before q after, queries = before ++ q :: after → InTime before q) →
      ∃ before q after, queries = before ++ q :: after ∧ q ∉ known ∧ ¬ InTime before q ∧
        (warm.runInTurn backend timeout queries).1 = .error (.backendTimeout q.text timeout)) := by
  intro delay InTime
  have nothing : ∀ q ∈ queries, cold.cached? q = if q ∈ [] then some (respond q) else none := by
    simpa using empty
  rw [runInTurn_promised fixed distinct nothing, Checked.map_eq_ok] at succeeded
  rw [runInTurn_promised fixed distinct warmed]
  obtain ⟨pairs, settled, rfl⟩ := succeeded
  obtain ⟨allInTime, rfl⟩ := settle_eq_ok.1 settled
  constructor
  · intro inTime
    rw [settle_of_inTime inTime]
    rfl
  · intro notInTime
    obtain ⟨before, q, after, split, late, result⟩ := exists_late_of_settle notInTime
    refine ⟨before, q, after, split, ?_, late, by rw [result]; rfl⟩
    intro inCache
    -- What is cached takes no time, so it is late only for a wait of no length.
    have noWait : timeout.toNanos = 0 := by
      have atOnce : delay q = 0 := if_pos inCache
      have overdue := Nat.le_of_not_lt late
      rw [atOnce] at overdue
      omega
    cases queries with
    | nil => simp at split
    | cons first rest =>
      have firstInTime := inTime_of_overdue? allInTime (List.nil_append (first :: rest)).symm
      simp [noWait] at firstInTime

/-- A backend that takes nine milliseconds to answer for the first bucket, and as long again for
each bucket more. -/
def slowly : Backend Unit :=
  .pure fun q => ⟨some (9000000 * (q.bucket + 1)), .ok .empty⟩

def tenMillis : Duration :=
  (Duration.ofMillis? 10).get rfl

def stocked (known : List Query) : World Unit :=
  ⟨(), some (.ofList (known.map fun q => (q, .empty))), []⟩

theorem runInTurn_warm_slowly :
    (bucketTotals [0, 1]).Nodup ∧
    ((stocked []).runInTurn slowly tenMillis (bucketTotals [0, 1])).1 =
      .ok (.ofList ((bucketTotals [0, 1]).map fun q => (q, .empty))) ∧
    ((stocked (bucketTotals [1])).runInTurn slowly tenMillis (bucketTotals [0, 1])).1 =
      .ok (.ofList ((bucketTotals [0, 1]).map fun q => (q, .empty))) := by
  have distinct : (bucketTotals [0, 1]).Nodup := by decide
  have succeeded : ((stocked []).runInTurn slowly tenMillis (bucketTotals [0, 1])).1 =
      .ok (.ofList ((bucketTotals [0, 1]).map fun q => (q, .empty))) := rfl
  have warmed : ∀ q ∈ bucketTotals [0, 1], (stocked (bucketTotals [1])).cached? q =
      if q ∈ bucketTotals [1] then some .empty else none := by
    simp only [bucketTotals, List.map_cons, List.map_nil, List.forall_mem_cons]
    exact ⟨rfl, rfl, by simp⟩
  have allInTime : overdue? tenMillis
      (fun q => if q ∈ bucketTotals [1] then 0 else 9000000 * (q.bucket + 1)) 0
      (bucketTotals [0, 1]) = none := rfl
  exact ⟨distinct, succeeded, (runInTurn_warm (fun q _ _ => rfl) distinct (fun _ _ => rfl) warmed
    succeeded).1 fun _ _ _ => inTime_of_overdue? allInTime⟩

def Untied (timeout : Duration) : Moment → List Flight → Prop
  | _, [] => True
  | m, f :: rest =>
    f.due ≠ some (m.clock + timeout.toNanos) ∧ Untied timeout (f.wait timeout m).1 rest

-- With the first answer cached, the wait for the second starts at once, and is over before the
-- eighteen milliseconds have passed.
theorem runInTurn_fails_when_warm :
    (bucketTotals [0, 1]).Nodup ∧
    Untied tenMillis .start ((stocked []).startAll slowly (bucketTotals [0, 1])).1 ∧
    Untied tenMillis .start ((stocked (bucketTotals [0])).startAll slowly (bucketTotals [0, 1])).1 ∧
    ((stocked []).runInTurn slowly tenMillis (bucketTotals [0, 1])).1 =
      .ok (.ofList ((bucketTotals [0, 1]).map fun q => (q, .empty))) ∧
    ((stocked (bucketTotals [0])).runInTurn slowly tenMillis (bucketTotals [0, 1])).1 =
      .error (.backendTimeout ((Request.orderTotals []).totalQuery [] 1 .baseline).text
        tenMillis) := by
  refine ⟨by decide, ⟨?_, ?_, trivial⟩, ⟨?_, ?_, trivial⟩, rfl, rfl⟩ <;> decide

end World

end PeriodCompare
