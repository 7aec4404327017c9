import PeriodCompare.Proofs.Cache
import PeriodCompare.Proofs.Scope

set_option autoImplicit false

namespace PeriodCompare

/-- The first expression that cannot be read decides. -/
def Evaluator.expressionFault? (v : Evaluator) (metrics : List MetricExpression) : Option Failure :=
  metrics.findSome? fun m => (v.references m.expression).failure?

def Evaluator.metricFault? (v : Evaluator) (r : Request) : Option RequestFault :=
  if ∀ m ∈ r.metrics, (v.references m.expression).toOption = some [] then
    some (.noMetrics r.collection)
  else none

def Request.windowFault? (r : Request) : Option RequestFault :=
  match r.granularity with
  | none => none
  | some g =>
    if pos : 0 < g.width then
      let baseline := (cut g.width pos r.baseline.start r.baseline.finish).length
      let current := (cut g.width pos r.current.start r.current.finish).length
      if baseline = current then none else some (.bucketCounts baseline current)
    else some (.zeroWidth g)

namespace Call

def request : Call → Request
  | .comparison r | .totals r | .breakdown r => r

def groupingFault? : Call → Option RequestFault
  | .comparison _ | .totals _ => none
  | .breakdown r => if r.groupBy = [] then some .noGroupBy else none

-- Granularity counts only in a comparison by buckets.
def windowFault? : Call → Option RequestFault
  | .comparison r => r.windowFault?
  | .totals _ | .breakdown _ => none

def fault? (v : Evaluator) (c : Call) : Option Failure :=
  (c.groupingFault?.map .invalidRequest).or <|
    (v.expressionFault? c.request.metrics).or <|
      (c.windowFault?.or (v.metricFault? c.request)).map .invalidRequest

def batch (topK : Nat) (functions : List MetricFunction) (windows : Windows) (c : Call) :
    List Query :=
  (windows.baseline.zip windows.current).zipIdx.flatMap fun (pair, bucket) =>
    c.scope.breakdowns.flatMap fun dimension =>
      Window.all.map ((c.scope.withWindows pair.1 pair.2).query topK functions bucket dimension)

end Call

namespace Request

variable {r : Request} {topK : Nat} {functions : List MetricFunction} {windows : Windows}

theorem failure?_windows : r.windows.failure? = r.windowFault?.map .invalidRequest := by
  cases granularity : r.granularity with
  | none =>
    rw [windows_of_granularity_eq_none granularity, windowFault?, granularity]
    rfl
  | some g =>
    rcases Nat.eq_zero_or_pos g.width with zero | pos
    · simp only [windows_of_width_eq_zero granularity zero, windowFault?, granularity, zero,
        Nat.lt_irrefl, dif_neg, not_false_eq_true]
      rfl
    · simp only [windows_of_width_pos granularity pos, windowFault?, granularity, pos, dif_pos]
      split <;> rfl

theorem failure?_queries (bucket : Nat) :
    (r.queries topK functions bucket).failure? = (r.needMetrics functions).failure? := by
  unfold queries groupQueries totalQueries
  split <;> cases r.needMetrics functions <;> rfl

theorem failure?_bucketQueries (cutInto : r.windows = .ok windows) :
    (r.bucketQueries topK functions windows).failure? = (r.needMetrics functions).failure? := by
  have same (pair : Interval × Interval) :
      (r.withWindows pair.1 pair.2).needMetrics functions = r.needMetrics functions := rfl
  obtain ⟨pair, found⟩ := Windows.exists_pair? (windows_aligned cutInto) (windows_size_pos cutInto)
  -- There is a first bucket, and what can be said against it holds for all.
  obtain ⟨first, rest, buckets⟩ := List.exists_cons_of_ne_nil
    (List.ne_nil_of_mem (Windows.mem_zipIdx_zip.2 found))
  rw [bucketQueries, Checked.failure?_bind_pure, Checked.failure?_mapM, buckets]
  simp only [failure?_queries, same]
  cases (r.needMetrics functions).failure? <;> simp

theorem exists_bucketQueries (cutInto : r.windows = .ok windows) :
    (∃ queries, r.bucketQueries topK functions windows = .ok queries) ↔
      ∃ u, r.needMetrics functions = .ok u := by
  rw [← Checked.failure?_eq_none, failure?_bucketQueries cutInto, Checked.failure?_eq_none]

end Request

namespace Evaluator

variable {v : Evaluator} {r : Request} {functions : List MetricFunction}

theorem failure?_columns (metrics : List MetricExpression) :
    (v.columns metrics).failure? = v.expressionFault? metrics := by
  rw [expressionFault?, ← Checked.failure?_mapM, columns, Checked.failure?_bind_pure]

theorem columns_eq_nil {metrics : List MetricExpression}
    (read : v.columns metrics = .ok functions) :
    functions = [] ↔ ∀ m ∈ metrics, (v.references m.expression).toOption = some [] := by
  simp only [columns, Checked.bind_eq_ok, Checked.pure_eq_ok] at read
  obtain ⟨perMetric, all, rfl⟩ := read
  have distinctNil : distinct perMetric.flatten = [] ↔ ∀ names ∈ perMetric, names = [] := by
    simp only [List.eq_nil_iff_forall_not_mem, mem_distinct, List.mem_flatten, not_exists, not_and]
    exact ⟨fun none names inAll name => none name names inAll,
      fun none name names inAll => none names inAll name⟩
  rw [List.map_eq_nil_iff, distinctNil]
  have each := Checked.mapM_eq_ok.1 all
  clear all distinctNil
  induction each with
  | nil => simp
  | cons first _ ih => simp [first, ih, Except.toOption]

theorem failure?_needMetrics (read : v.columns r.metrics = .ok functions) :
    (r.needMetrics functions).failure? = (v.metricFault? r).map .invalidRequest := by
  have none : (r.metrics.isEmpty || functions.isEmpty) = true ↔
      ∀ m ∈ r.metrics, (v.references m.expression).toOption = some [] := by
    rw [Bool.or_eq_true, List.isEmpty_iff, List.isEmpty_iff, columns_eq_nil read]
    refine or_iff_right_of_imp fun empty => by simp [empty]
  unfold Request.needMetrics metricFault?
  by_cases nothing : ∀ m ∈ r.metrics, (v.references m.expression).toOption = some []
  · rw [if_pos (none.2 nothing), if_pos nothing]
    rfl
  · rw [if_neg (mt none.1 nothing), if_neg nothing]
    rfl

end Evaluator

namespace Call

theorem metrics_scope (c : Call) : c.scope.metrics = c.request.metrics := by
  cases c <;> rfl

theorem failure?_precheck (c : Call) :
    c.precheck.failure? = c.groupingFault?.map .invalidRequest := by
  cases c with
  | comparison r => rfl
  | totals r => rfl
  | breakdown r =>
    cases groupBy : r.groupBy <;>
      simp [precheck, groupingFault?, Request.isGrouped, groupBy, Checked.failure?]

theorem failure?_windows (c : Call) :
    c.scope.windows.failure? = c.windowFault?.map .invalidRequest := by
  rw [Request.failure?_windows]
  cases c <;> rfl

theorem failure?_needMetrics {v : Evaluator} {functions : List MetricFunction} (c : Call)
    (read : v.columns c.request.metrics = .ok functions) :
    (c.scope.needMetrics functions).failure? = (v.metricFault? c.request).map .invalidRequest := by
  rw [← Evaluator.failure?_needMetrics read]
  cases c <;> rfl

end Call

namespace World

variable {σ : Type} {w : World σ} {queries : List Query}

theorem received_run (backend : Backend σ) (distinct : queries.Nodup) {timeout : Duration}
    (positive : 0 < timeout.toNanos)
    (await : List Flight → Moment × Checked (List (Query × Answer))) :
    (w.run backend timeout await queries).2.received =
      w.received ++ queries.filter fun q => (w.cached? q).isNone := by
  have missing : (w.missed (w.startAll backend queries).1).map (·.query) =
      queries.filter fun q => (w.cached? q).isNone := by
    conv_rhs => rw [← startAll_queries backend w queries, List.filter_map]
    simp [missed, Function.comp_def]
  rw [received, executions_run backend w distinct, executedIn, if_neg (Nat.ne_of_gt positive),
    List.map_append, missing]
  rfl

end World

namespace Service

variable {σ : Type} {s : Service σ} {w : World σ}

theorem failure?_plan (c : Call) : (s.plan c).failure? = c.fault? s.evaluator := by
  rw [Call.fault?, Option.map_or, ← c.failure?_precheck, ← s.evaluator.failure?_columns,
    ← c.failure?_windows, plan, bucketPlan, c.metrics_scope]
  cases c.precheck with
  | error e => rfl
  | ok _ =>
    cases read : s.evaluator.columns c.request.metrics with
    | error e => rfl
    | ok functions =>
      cases cutInto : c.scope.windows with
      | error e => rfl
      | ok windows =>
        rw [← c.failure?_needMetrics read, ← Request.failure?_bucketQueries cutInto]
        exact Checked.failure?_bind_pure _ _

theorem answer_of_plan_error {c : Call} {e : Failure} (refused : s.plan c = .error e) :
    s.answer w c = (.error e, w) := by
  rw [← answerBy_entries, answerBy, refused]

theorem plan_eq_ok {c : Call} {functions : List MetricFunction} {windows : Windows}
    {queries : List Query} (planned : s.plan c = .ok (functions, windows, queries)) :
    s.evaluator.columns c.request.metrics = .ok functions ∧ c.scope.windows = .ok windows ∧
      queries = c.batch s.topK functions windows := by
  obtain ⟨read, cutInto, batch⟩ := bucketPlan_eq_ok.1 (bucketPlan_of_plan planned)
  exact ⟨c.metrics_scope ▸ read, cutInto, Request.bucketQueries_eq_ok batch⟩

theorem answer_checked (s : Service σ) (w : World σ) (c : Call) :
    (∀ e, c.fault? s.evaluator = some e → s.answer w c = (.error e, w)) ∧
    (c.fault? s.evaluator = none → ∃ functions windows,
      s.evaluator.columns c.request.metrics = .ok functions ∧ c.scope.windows = .ok windows ∧
        (0 < s.timeout.toNanos → (c.batch s.topK functions windows).Nodup →
          (s.answer w c).2.received =
            w.received ++ (c.batch s.topK functions windows).filter
              fun q => (w.cached? q).isNone)) := by
  rw [← failure?_plan]
  cases planned : s.plan c with
  | error e =>
    refine ⟨fun other same => ?_, by simp [Checked.failure?]⟩
    obtain rfl := Option.some.inj same
    exact answer_of_plan_error planned
  | ok plan =>
    obtain ⟨functions, windows, queries⟩ := plan
    obtain ⟨read, cutInto, rfl⟩ := plan_eq_ok planned
    refine ⟨by simp [Checked.failure?], fun _ => ⟨functions, windows, read, cutInto, ?_⟩⟩
    intro positive distinct
    have asks : s.asks c = c.batch s.topK functions windows := by rw [Service.asks, planned]
    rw [world_answer, asks, World.received_run s.backend distinct positive]

end Service

end PeriodCompare
