import PeriodCompare.Proofs.Cache
import PeriodCompare.Proofs.Comparison
import PeriodCompare.Session

set_option autoImplicit false

namespace PeriodCompare

namespace Request

variable {r : Request}

def whole (r : Request) : Request :=
  { r with granularity := none }

def ungrouped (r : Request) : Request :=
  { r with groupBy := [] }

@[simp] theorem isGrouped_whole : r.whole.isGrouped = r.isGrouped := rfl

@[simp] theorem metrics_whole : r.whole.metrics = r.metrics := rfl

@[simp] theorem metrics_ungrouped : r.ungrouped.metrics = r.metrics := rfl

theorem layout_whole (grouped : r.isGrouped = true) : r.whole.layout = .heatmap := by
  rw [layout, isGrouped_whole, grouped]
  rfl

theorem bucketQueries_wholeWindows (topK : Nat) (functions : List MetricFunction) :
    r.bucketQueries topK functions r.wholeWindows = r.queries topK functions 0 := by
  have same : (r.withWindows r.baseline r.current).queries topK functions 0 =
      r.queries topK functions 0 := rfl
  simp only [bucketQueries, wholeWindows, Windows.whole, List.zip_cons_cons, List.zip_nil_right,
    List.zipIdx_singleton, List.mapM_cons, List.mapM_nil, same]
  cases r.queries topK functions 0 with
  | error e => rfl
  | ok queries => simp [pure, Except.pure]

end Request

namespace Call

def scope : Call → Request
  | .comparison r => r
  | .totals r => r.whole.ungrouped
  | .breakdown r => r.whole

def precheck : Call → Checked Unit
  | .comparison _ | .totals _ => .ok ()
  | .breakdown r => if r.isGrouped then .ok () else .error (.invalidRequest .noGroupBy)

def await (timeout : Duration) : Call → List Flight → Moment × Checked (List (Query × Answer))
  | .comparison _ => awaitInTurn timeout .start
  | .totals _ | .breakdown _ => awaitTogether timeout

theorem gathers_await (timeout : Duration) (c : Call) : Flight.Gathers (c.await timeout) := by
  cases c with
  | comparison r => exact forall₂_of_awaitInTurn
  | totals r => exact forall₂_of_awaitTogether
  | breakdown r => exact forall₂_of_awaitTogether

theorem onward_await (timeout : Duration) (c : Call) : Flight.Onward timeout (c.await timeout) := by
  cases c with
  | comparison r => exact Flight.onward_awaitInTurn timeout
  | totals r => exact Flight.onward_awaitTogether timeout
  | breakdown r => exact Flight.onward_awaitTogether timeout

def reply (rows : List Row) : Call → Checked Reply
  | .comparison _ => .ok (.comparison ⟨rows⟩)
  | .totals _ =>
    match rows with
    | row :: _ => .ok (.row row)
    | [] => .error (.backend .noRow)
  | .breakdown _ => .ok (.rows rows)

end Call

namespace Service

variable {σ : Type} {s : Service σ} {w : World σ} {r : Request}
  {order : Answers → List (Query × Answer)}

def plan (s : Service σ) (c : Call) : Checked (List MetricFunction × Windows × List Query) := do
  c.precheck
  s.bucketPlan c.scope

def compareTotalsBy (order : Answers → List (Query × Answer)) (s : Service σ) (w : World σ)
    (r : Request) : Checked Row × World σ :=
  match s.totalPlan r with
  | .error e => (.error e, w)
  | .ok (functions, queries) =>
    let (answers, w) := w.runTogether s.backend s.timeout queries
    (do
      let answers ← answers
      let rows ← s.assemble .tabular r r.wholeWindows functions (order answers)
      match rows with
      | row :: _ => .ok row
      | [] => .error (.backend .noRow), w)

theorem compareTotalsBy_entries : s.compareTotalsBy Table.entries w r = s.compareTotals w r := rfl

def breakdownBy (order : Answers → List (Query × Answer)) (s : Service σ) (w : World σ)
    (r : Request) : Checked (List Row) × World σ :=
  match s.breakdownPlan r with
  | .error e => (.error e, w)
  | .ok (functions, queries) =>
    let (answers, w) := w.runTogether s.backend s.timeout queries
    (do
      let answers ← answers
      s.assemble .heatmap r r.wholeWindows functions (order answers), w)

theorem breakdownBy_entries : s.breakdownBy Table.entries w r = s.breakdown w r := rfl

/-- A call that takes up the answers to its batch in some order of its own. -/
def answerBy (order : Answers → List (Query × Answer)) (s : Service σ) (w : World σ) (c : Call) :
    Checked Reply × World σ :=
  match s.plan c with
  | .error e => (.error e, w)
  | .ok (functions, windows, queries) =>
    let (answers, w) := w.run s.backend s.timeout (c.await s.timeout) queries
    (do
      let rows ← s.assemble c.scope.layout c.scope windows functions (order (← answers))
      c.reply rows, w)

def asks (s : Service σ) (c : Call) : List Query :=
  match s.plan c with
  | .ok (_, _, queries) => queries
  | .error _ => []

theorem bucketPlan_of_plan {plan : List MetricFunction × Windows × List Query}
    {c : Call} (planned : s.plan c = .ok plan) : s.bucketPlan c.scope = .ok plan := by
  simp only [Service.plan, Checked.bind_eq_ok] at planned
  obtain ⟨_, -, planned⟩ := planned
  exact planned

theorem nodup_asks {c : Call} (distinct : c.scope.groupBy.Nodup) : (s.asks c).Nodup := by
  unfold asks
  cases planned : s.plan c with
  | error e => exact List.nodup_nil
  | ok plan =>
    obtain ⟨-, -, batch⟩ := bucketPlan_eq_ok.1 (bucketPlan_of_plan planned)
    exact Request.nodup_bucketQueries distinct batch

theorem world_answerBy (c : Call) :
    (s.answerBy order w c).2 = (w.run s.backend s.timeout (c.await s.timeout) (s.asks c)).2 := by
  unfold answerBy asks
  cases s.plan c <;> rfl

theorem fst_answerBy {c : Call} {functions : List MetricFunction} {windows : Windows}
    {queries : List Query} {answers : Answers}
    (planned : s.plan c = .ok (functions, windows, queries))
    (ran : (w.run s.backend s.timeout (c.await s.timeout) queries).1 = .ok answers) :
    (s.answerBy order w c).1 =
      (s.assemble c.scope.layout c.scope windows functions (order answers) >>= fun rows =>
        c.reply rows) := by
  unfold answerBy
  simp only [planned, ran, Checked.ok_bind]

theorem answerBy_eq_ok {c : Call} {reply : Reply} :
    (s.answerBy order w c).1 = .ok reply ↔ ∃ functions windows queries answers rows,
      s.plan c = .ok (functions, windows, queries) ∧
        (w.run s.backend s.timeout (c.await s.timeout) queries).1 = .ok answers ∧
          s.assemble c.scope.layout c.scope windows functions (order answers) = .ok rows ∧
            c.reply rows = .ok reply := by
  constructor
  · intro succeeded
    cases planned : s.plan c with
    | error e => simp [answerBy, planned] at succeeded
    | ok plan =>
      obtain ⟨functions, windows, queries⟩ := plan
      cases ran : (w.run s.backend s.timeout (c.await s.timeout) queries).1 with
      | error e => simp [answerBy, planned, ran] at succeeded
      | ok answers =>
        rw [fst_answerBy planned ran, Checked.bind_eq_ok] at succeeded
        obtain ⟨rows, assembled, replied⟩ := succeeded
        exact ⟨functions, windows, queries, answers, rows, rfl, ran, assembled, replied⟩
  · intro steps
    obtain ⟨functions, windows, queries, answers, rows, planned, ran, assembled, replied⟩ := steps
    rw [fst_answerBy planned ran, assembled]
    exact replied

theorem bucketPlan_of_granularity_eq_none (whole : r.granularity = none) :
    s.bucketPlan r = (do
      let functions ← s.evaluator.columns r.metrics
      let queries ← r.queries s.topK functions 0
      return (functions, r.wholeWindows, queries)) := by
  simp only [bucketPlan, Request.windows_of_granularity_eq_none whole, Checked.ok_bind,
    Request.bucketQueries_wholeWindows]

theorem plan_totals :
    s.plan (.totals r) = (s.totalPlan r).map fun plan => (plan.1, r.wholeWindows, plan.2) := by
  have ungrouped (functions : List MetricFunction) :
      r.whole.ungrouped.queries s.topK functions 0 = r.totalQueries functions 0 := rfl
  simp only [plan, Call.precheck, Call.scope,
    bucketPlan_of_granularity_eq_none (r := r.whole.ungrouped) rfl, ungrouped, totalPlan,
    Request.metrics_ungrouped, Request.metrics_whole, Checked.ok_bind]
  cases s.evaluator.columns r.metrics with
  | error e => rfl
  | ok functions =>
    simp only [Checked.ok_bind]
    cases r.totalQueries functions 0 <;> rfl

theorem plan_breakdown :
    s.plan (.breakdown r) =
      (s.breakdownPlan r).map fun plan => (plan.1, r.wholeWindows, plan.2) := by
  cases grouped : r.isGrouped with
  | false => simp [plan, Call.precheck, breakdownPlan, grouped]
  | true =>
    have queries (functions : List MetricFunction) :
        r.whole.queries s.topK functions 0 = r.groupQueries s.topK functions 0 := by
      rw [Request.queries, Request.isGrouped_whole, grouped]
      rfl
    simp only [plan, Call.precheck, Call.scope, grouped, if_true, breakdownPlan,
      bucketPlan_of_granularity_eq_none (r := r.whole) rfl, queries, Request.metrics_whole,
      Checked.ok_bind]
    cases s.evaluator.columns r.metrics with
    | error e => rfl
    | ok functions =>
      simp only [Checked.ok_bind]
      cases r.groupQueries s.topK functions 0 <;> rfl

theorem answerBy_comparison :
    s.answerBy order w (.comparison r) = (s.compareBy order w r).map (·.map .comparison) id := by
  unfold answerBy compareBy plan
  simp only [Call.precheck, Call.scope, Call.await, Call.reply, Checked.ok_bind]
  cases s.bucketPlan r with
  | error e => rfl
  | ok plan =>
    simp only [World.runInTurn, Prod.map, id]
    cases (w.run s.backend s.timeout (awaitInTurn s.timeout .start) plan.2.2).1 with
    | error e => rfl
    | ok answers =>
      simp only [Checked.ok_bind]
      cases s.assemble r.layout r plan.2.1 plan.1 (order answers) <;> rfl

theorem answerBy_totals :
    s.answerBy order w (.totals r) = (s.compareTotalsBy order w r).map (·.map .row) id := by
  have scope (functions : List MetricFunction) (answers : List (Query × Answer)) :
      s.assemble r.whole.ungrouped.layout r.whole.ungrouped r.wholeWindows functions answers =
        s.assemble .tabular r r.wholeWindows functions answers := rfl
  unfold answerBy compareTotalsBy
  rw [plan_totals]
  cases s.totalPlan r with
  | error e => rfl
  | ok plan =>
    obtain ⟨functions, queries⟩ := plan
    simp only [Checked.map_ok, World.runTogether, Prod.map, id, Call.await, Call.scope, scope]
    cases (w.run s.backend s.timeout (awaitTogether s.timeout) queries).1 with
    | error e => rfl
    | ok answers =>
      simp only [Checked.ok_bind]
      cases s.assemble .tabular r r.wholeWindows functions (order answers) with
      | error e => rfl
      | ok rows => cases rows <;> rfl

theorem answerBy_breakdown :
    s.answerBy order w (.breakdown r) = (s.breakdownBy order w r).map (·.map .rows) id := by
  unfold answerBy breakdownBy
  rw [plan_breakdown]
  cases grouped : r.isGrouped with
  | false => simp [breakdownPlan, grouped]
  | true =>
    have scope (functions : List MetricFunction) (answers : List (Query × Answer)) :
        s.assemble r.whole.layout r.whole r.wholeWindows functions answers =
          s.assemble .heatmap r r.wholeWindows functions answers := by
      rw [Request.layout_whole grouped]
      rfl
    cases s.breakdownPlan r with
    | error e => rfl
    | ok plan =>
      obtain ⟨functions, queries⟩ := plan
      simp only [Checked.map_ok, World.runTogether, Prod.map, id, Call.await, Call.scope, scope]
      cases (w.run s.backend s.timeout (awaitTogether s.timeout) queries).1 with
      | error e => rfl
      | ok answers =>
        simp only [Checked.ok_bind]
        cases s.assemble .heatmap r r.wholeWindows functions (order answers) <;> rfl

theorem answerBy_entries (c : Call) : s.answerBy Table.entries w c = s.answer w c := by
  cases c with
  | comparison r => rw [answerBy_comparison, compareBy_entries, answer]
  | totals r => rw [answerBy_totals, compareTotalsBy_entries, answer]
  | breakdown r => rw [answerBy_breakdown, breakdownBy_entries, answer]

theorem world_answer (c : Call) :
    (s.answer w c).2 = (w.run s.backend s.timeout (c.await s.timeout) (s.asks c)).2 := by
  rw [← answerBy_entries, world_answerBy]

theorem answered_of_plan {c : Call} {functions : List MetricFunction} {windows : Windows}
    {queries : List Query} {answers : Answers} {pairs : List (Query × Answer)}
    (planned : s.plan c = .ok (functions, windows, queries))
    (ran : (w.run s.backend s.timeout (c.await s.timeout) queries).1 = .ok answers)
    (perm : pairs.Perm answers.entries) :
    c.scope.Answered s.topK functions windows answers pairs := by
  obtain ⟨-, cut, batch⟩ := bucketPlan_eq_ok.1 (bucketPlan_of_plan planned)
  obtain ⟨pairs, rfl, rfl⟩ := World.keys_of_run (c.gathers_await s.timeout) ran
  exact ⟨cut, ⟨_, batch, Table.mem_keys_ofList pairs⟩, Table.nodup_keys_ofList pairs, perm⟩

theorem assemble_congr {functions : List MetricFunction} {windows : Windows} {answers : Answers}
    {pairs others : List (Query × Answer)}
    (answered : r.Answered s.topK functions windows answers pairs)
    (reordered : r.Answered s.topK functions windows answers others) (own : OwnBuckets pairs) :
    s.assemble r.layout r windows functions pairs =
      s.assemble r.layout r windows functions others := by
  unfold assemble
  rw [answered.join_congr reordered own]

theorem assemble_congr_of_whole {functions : List MetricFunction} {windows : Windows}
    {answers : Answers} {pairs others : List (Query × Answer)}
    (answered : r.Answered s.topK functions windows answers pairs)
    (reordered : r.Answered s.topK functions windows answers others) (whole : windows.size = 1) :
    s.assemble r.layout r windows functions pairs =
      s.assemble r.layout r windows functions others := by
  unfold assemble
  rw [answered.join_congr_of_whole reordered whole]

theorem answerBy_congr {v : World σ} {reorder : Answers → List (Query × Answer)} {c : Call}
    (same : (v.run s.backend s.timeout (c.await s.timeout) (s.asks c)).1 =
      (w.run s.backend s.timeout (c.await s.timeout) (s.asks c)).1)
    (own : ∀ answers, (w.run s.backend s.timeout (c.await s.timeout) (s.asks c)).1 = .ok answers →
      OwnBuckets answers.entries)
    (orders : ∀ answers, (order answers).Perm answers.entries)
    (reorders : ∀ answers, (reorder answers).Perm answers.entries) :
    (s.answerBy order w c).1 = (s.answerBy reorder v c).1 := by
  unfold answerBy
  unfold asks at same own
  cases planned : s.plan c with
  | error e => rfl
  | ok plan =>
    obtain ⟨functions, windows, queries⟩ := plan
    simp only [planned] at same own ⊢
    rw [same]
    cases ran : (w.run s.backend s.timeout (c.await s.timeout) queries).1 with
    | error e => rfl
    | ok answers =>
      have answered := answered_of_plan planned ran (orders answers)
      have reordered := answered_of_plan planned ran (reorders answers)
      have ownOrder : OwnBuckets (order answers) := fun pair member =>
        own answers ran pair ((orders answers).mem_iff.1 member)
      simp only [Checked.ok_bind, assemble_congr answered reordered ownOrder]

end Service

end PeriodCompare
