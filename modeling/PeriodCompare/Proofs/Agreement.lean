import PeriodCompare.Proofs.Prompt
import PeriodCompare.Proofs.Refusal

set_option autoImplicit false

namespace PeriodCompare

namespace World

variable {σ : Type} {backend : Backend σ} {w v : World σ} {course : Query → Course}
  {timeout : Duration} {queries : List Query}

theorem Steady.due_startAll (steady : w.Steady course) (follows : backend.Follows course)
    (atOnce : ∀ q, (course q).latency = some 0) :
    ∀ f ∈ (w.startAll backend queries).1, f.due = some 0 := by
  rw [steady.startAll follows fun q => .inr (atOnce q)]
  simp [Course.flight, atOnce]

theorem Steady.runTogether_eq (steady : w.Steady course) (follows : backend.Follows course)
    (atOnce : ∀ q, (course q).latency = some 0) (timeout : Duration) (queries : List Query) :
    w.runTogether backend timeout queries = w.runInTurn backend timeout queries := by
  cases queries with
  | nil => rfl
  | cons q rest =>
    have due : ∀ f ∈ (w.startAll backend (q :: rest)).1, f.due = some 0 :=
      steady.due_startAll follows atOnce
    simp only [runTogether, runInTurn, run]
    split
    · rfl
    next positive =>
      rw [awaitTogether_of_atOnce (Nat.pos_of_ne_zero positive) due, awaitInTurn_of_atOnce due]

theorem Steady.runTogether_congr (steady : w.Steady course) (steadyToo : v.Steady course)
    (follows : backend.Follows course) (atOnce : ∀ q, (course q).latency = some 0)
    (timeout : Duration) (queries : List Query) :
    (w.runTogether backend timeout queries).1 = (v.runInTurn backend timeout queries).1 := by
  rw [steady.runTogether_eq follows atOnce]
  exact steady.run_congr steadyToo follows (fun q => .inr (atOnce q)) timeout _ queries

theorem Steady.cause_of_runInTurn (steady : w.Steady course) (follows : backend.Follows course)
    (atOnce : ∀ q, (course q).latency = some 0) {e : Failure}
    (failed : (w.runInTurn backend timeout queries).1 = .error e) :
    (∃ q, (course q).outcome = .error e) ∨ ∃ text, e = .backendTimeout text timeout := by
  cases queries with
  | nil => simp [runInTurn, run] at failed
  | cons q rest =>
    have due : ∀ f ∈ (w.startAll backend (q :: rest)).1, f.due = some 0 :=
      steady.due_startAll follows atOnce
    simp only [runInTurn, run] at failed
    split at failed
    · exact .inr ⟨q.text, (Except.error.inj failed).symm⟩
    · simp only [awaitInTurn_of_atOnce due, Checked.map_eq_error] at failed
      obtain ⟨f, started, failed⟩ := Checked.exists_of_mapM_error failed
      rw [steady.startAll follows fun q => .inr (atOnce q)] at started
      obtain ⟨other, -, rfl⟩ := List.mem_map.1 started
      exact .inl ⟨other, Checked.map_eq_error.1 failed⟩

end World

namespace Service

variable {σ : Type} {s : Service σ} {w v : World σ} {r : Request} {course : Query → Course}
  {order reorder : Answers → List (Query × Answer)}

inductive Cause (s : Service σ) (course : Query → Course) (metrics : List MetricExpression) :
    Failure → Prop where
  | request (fault : RequestFault) : Cause s course metrics (.invalidRequest fault)
  | late (text : String) : Cause s course metrics (.backendTimeout text s.timeout)
  | query {q : Query} {e : Failure} (failed : (course q).outcome = .error e) :
    Cause s course metrics e
  | reading {m : MetricExpression} {e : Failure} (member : m ∈ metrics)
    (failed : s.evaluator.references m.expression = .error e) : Cause s course metrics e
  | evaluating {m : MetricExpression} {values : Expr.Values} {e : Failure} (member : m ∈ metrics)
    (failed : s.evaluator.evaluate m.expression values = .error e) : Cause s course metrics e

theorem Cause.of_fault? {c : Call} {e : Failure} (fault : c.fault? s.evaluator = some e) :
    s.Cause course c.request.metrics e := by
  simp only [Call.fault?, Option.or_eq_some_iff, Option.map_eq_some_iff] at fault
  rcases fault with ⟨request, -, rfl⟩ | ⟨-, unreadable | ⟨-, request, -, rfl⟩⟩
  · exact .request request
  · obtain ⟨m, member, failed⟩ := List.exists_of_findSome?_eq_some unreadable
    exact .reading member (Checked.failure?_eq_some.1 failed)
  · exact .request request

theorem Cause.of_bucketPlan {e : Failure} (refused : s.bucketPlan r = .error e) :
    s.Cause course r.metrics e := by
  have plan : s.plan (.comparison r) = .error e := refused
  have fault := s.failure?_plan (.comparison r)
  rw [plan] at fault
  exact .of_fault? fault.symm

theorem Cause.of_assemble {layout : Layout} {windows : Windows} {functions : List MetricFunction}
    {answers : List (Query × Answer)} {e : Failure}
    (failed : s.assemble layout r windows functions answers = .error e) :
    s.Cause course r.metrics e := by
  rw [assemble_eq_mapM] at failed
  obtain ⟨row, -, incomplete⟩ := Checked.exists_of_mapM_error failed
  rw [Evaluator.complete, Checked.map_eq_error] at incomplete
  obtain ⟨m, member, underived⟩ := Checked.exists_of_mapM_error incomplete
  have declared : m ∈ r.metrics := List.mem_of_mem_filter member
  rw [Evaluator.derive] at underived
  cases baseline : s.evaluator.evaluate m.expression (row.values .baseline) with
  | error other =>
    obtain rfl : other = e := by simpa [baseline] using underived
    exact .evaluating declared baseline
  | ok x =>
    cases current : s.evaluator.evaluate m.expression (row.values .current) with
    | error other =>
      obtain rfl : other = e := by simpa [baseline, current] using underived
      exact .evaluating declared current
    | ok y => simp [baseline, current, pure, Except.pure] at underived

theorem Cause.of_compareBy (steady : w.Steady course) (follows : s.backend.Follows course)
    (atOnce : ∀ q, (course q).latency = some 0) {e : Failure}
    (failed : (s.compareBy order w r).1 = .error e) : s.Cause course r.metrics e := by
  unfold compareBy at failed
  cases planned : s.bucketPlan r with
  | error other =>
    obtain rfl : other = e := by simpa [planned] using failed
    exact .of_bucketPlan planned
  | ok plan =>
    obtain ⟨functions, windows, queries⟩ := plan
    simp only [planned] at failed
    cases ran : (w.runInTurn s.backend s.timeout queries).1 with
    | error other =>
      obtain rfl : other = e := by simpa [ran] using failed
      rcases steady.cause_of_runInTurn follows atOnce ran with ⟨q, failed⟩ | ⟨text, rfl⟩
      · exact .query failed
      · exact .late text
    | ok answers =>
      cases assembled : s.assemble r.layout r windows functions (order answers) with
      | error other =>
        obtain rfl : other = e := by simpa [ran, assembled] using failed
        exact .of_assemble assembled
      | ok rows => simp [ran, assembled, pure, Except.pure] at failed

theorem bucketPlan_ungrouped :
    s.bucketPlan r.whole.ungrouped =
      (s.totalPlan r).map fun plan => (plan.1, r.wholeWindows, plan.2) :=
  plan_totals

theorem bucketPlan_whole (grouped : r.isGrouped = true) :
    s.bucketPlan r.whole =
      (s.breakdownPlan r).map fun plan => (plan.1, r.wholeWindows, plan.2) := by
  rw [← plan_breakdown, plan, Call.precheck, if_pos grouped]
  rfl

theorem fst_compareBy {functions : List MetricFunction} {windows : Windows} {queries : List Query}
    (planned : s.bucketPlan r = .ok (functions, windows, queries)) :
    (s.compareBy order w r).1 =
      ((w.runInTurn s.backend s.timeout queries).1 >>= fun answers =>
        s.assemble r.layout r windows functions (order answers)).map Comparison.mk := by
  unfold compareBy
  simp only [planned]
  cases (w.runInTurn s.backend s.timeout queries).1 with
  | error e => rfl
  | ok answers =>
    simp only [Checked.ok_bind]
    cases s.assemble r.layout r windows functions (order answers) <;> rfl

theorem rows_together {functions : List MetricFunction} {windows : Windows} {queries : List Query}
    (planned : s.bucketPlan r = .ok (functions, windows, queries)) (whole : windows.size = 1)
    (steady : w.Steady course) (steadyToo : v.Steady course) (follows : s.backend.Follows course)
    (atOnce : ∀ q, (course q).latency = some 0)
    (orders : ∀ answers, (order answers).Perm answers.entries)
    (reorders : ∀ answers, (reorder answers).Perm answers.entries) :
    ((v.runInTurn s.backend s.timeout queries).1 >>= fun answers =>
        s.assemble r.layout r windows functions (reorder answers)) =
      ((w.runTogether s.backend s.timeout queries).1 >>= fun answers =>
        s.assemble r.layout r windows functions (order answers)) := by
  rw [steady.runTogether_congr steadyToo follows atOnce]
  cases ran : (v.runInTurn s.backend s.timeout queries).1 with
  | error e => rfl
  | ok answers =>
    exact assemble_congr_of_whole (answered_of_run planned ran (reorders answers))
      (answered_of_run planned ran (orders answers)) whole

theorem compareBy_whole (grouped : r.isGrouped = true) (steady : w.Steady course)
    (steadyToo : v.Steady course) (follows : s.backend.Follows course)
    (atOnce : ∀ q, (course q).latency = some 0)
    (orders : ∀ answers, (order answers).Perm answers.entries)
    (reorders : ∀ answers, (reorder answers).Perm answers.entries) :
    (s.compareBy reorder v r.whole).1 = (s.breakdownBy order w r).1.map fun rows => ⟨rows⟩ := by
  have bucketPlanned := s.bucketPlan_whole grouped
  cases planned : s.breakdownPlan r with
  | error e =>
    rw [planned, Checked.map_error] at bucketPlanned
    simp only [compareBy, breakdownBy, bucketPlanned, planned, Checked.map_error]
  | ok plan =>
    rw [planned, Checked.map_ok] at bucketPlanned
    rw [fst_compareBy bucketPlanned,
      rows_together bucketPlanned rfl steady steadyToo follows atOnce orders reorders,
      Request.layout_whole grouped]
    simp only [breakdownBy, planned]
    rfl

theorem compareBy_ungrouped_whole (steady : w.Steady course) (steadyToo : v.Steady course)
    (follows : s.backend.Follows course) (atOnce : ∀ q, (course q).latency = some 0)
    (orders : ∀ answers, (order answers).Perm answers.entries)
    (reorders : ∀ answers, (reorder answers).Perm answers.entries) :
    (s.compareBy reorder v r.whole.ungrouped).1 =
      (s.compareTotalsBy order w r).1.map fun row => ⟨[row]⟩ := by
  have bucketPlanned := s.bucketPlan_ungrouped (r := r)
  cases planned : s.totalPlan r with
  | error e =>
    rw [planned, Checked.map_error] at bucketPlanned
    simp only [compareBy, compareTotalsBy, bucketPlanned, planned, Checked.map_error]
  | ok plan =>
    rw [planned, Checked.map_ok] at bucketPlanned
    rw [fst_compareBy bucketPlanned,
      rows_together bucketPlanned rfl steady steadyToo follows atOnce orders reorders]
    simp only [compareTotalsBy, planned]
    cases ran : (w.runTogether s.backend s.timeout plan.2).1 with
    | error e => rfl
    | ok answers =>
      have sameRun := steady.runTogether_congr steadyToo follows atOnce s.timeout plan.2
      have answered := answered_of_run bucketPlanned (sameRun.symm.trans ran) (orders answers)
      have same : s.assemble r.whole.ungrouped.layout r.whole.ungrouped r.wholeWindows plan.1
          (order answers) = s.assemble .tabular r r.wholeWindows plan.1 (order answers) := rfl
      simp only [Checked.ok_bind, same]
      cases assembled : s.assemble .tabular r r.wholeWindows plan.1 (order answers) with
      | error e => rfl
      | ok rows =>
        -- Without grouping there is one cell, so there is a row to give.
        have all := (forall₂_at answered assembled).length_eq
        rw [Request.cells_of_ungrouped rfl] at all
        obtain ⟨row, rfl⟩ := List.length_eq_one_iff.1 all.symm
        rfl

theorem world_compareBy_ungrouped_whole (steady : w.Steady course)
    (follows : s.backend.Follows course) (atOnce : ∀ q, (course q).latency = some 0) :
    (s.compareBy reorder w r.whole.ungrouped).2 = (s.compareTotalsBy order w r).2 := by
  unfold compareBy compareTotalsBy
  rw [bucketPlan_ungrouped]
  cases s.totalPlan r with
  | error e => rfl
  | ok plan => simp only [Checked.map_ok, steady.runTogether_eq follows atOnce]

theorem world_compareBy_whole (grouped : r.isGrouped = true) (steady : w.Steady course)
    (follows : s.backend.Follows course) (atOnce : ∀ q, (course q).latency = some 0) :
    (s.compareBy reorder w r.whole).2 = (s.breakdownBy order w r).2 := by
  unfold compareBy breakdownBy
  rw [bucketPlan_whole grouped]
  cases s.breakdownPlan r with
  | error e => rfl
  | ok plan => simp only [Checked.map_ok, steady.runTogether_eq follows atOnce]

theorem entry_points_agree (s : Service σ) (follows : s.backend.Follows course)
    (atOnce : ∀ q, (course q).latency = some 0) (reached : w.Reached s.backend)
    (reachedToo : v.Reached s.backend)
    (orders : ∀ answers, (order answers).Perm answers.entries)
    (reorders : ∀ answers, (reorder answers).Perm answers.entries) (r : Request) :
    ((s.totalPlan r).map (·.2) = (s.bucketPlan r.whole.ungrouped).map (·.2.2) ∧
      (s.compareBy reorder v r.whole.ungrouped).1 =
        (s.compareTotalsBy order w r).1.map (fun row => ⟨[row]⟩) ∧
      (s.compareBy reorder w r.whole.ungrouped).2 = (s.compareTotalsBy order w r).2) ∧
    (r.isGrouped = true →
      (s.breakdownPlan r).map (·.2) = (s.bucketPlan r.whole).map (·.2.2) ∧
      (s.compareBy reorder v r.whole).1 = (s.breakdownBy order w r).1.map (fun rows => ⟨rows⟩) ∧
      (s.compareBy reorder w r.whole).2 = (s.breakdownBy order w r).2) ∧
    ((s.compareTotalsBy order w r).1 = .error (.backend .noRow) →
      (∃ q, (course q).outcome = .error (.backend .noRow)) ∨
        ∃ m ∈ r.metrics, s.evaluator.references m.expression = .error (.backend .noRow) ∨
          ∃ values, s.evaluator.evaluate m.expression values = .error (.backend .noRow)) := by
  have prompt (q : Query) : (course q).Prompt := .inr (atOnce q)
  have steady := reached.steady follows prompt
  have steadyToo := reachedToo.steady follows prompt
  have totals := compareBy_ungrouped_whole (r := r) steady steadyToo follows atOnce orders reorders
  refine ⟨⟨?_, totals, world_compareBy_ungrouped_whole steady follows atOnce⟩, ?_, ?_⟩
  · rw [bucketPlan_ungrouped]
    cases s.totalPlan r <;> rfl
  · intro grouped
    refine ⟨?_, compareBy_whole grouped steady steadyToo follows atOnce orders reorders,
      world_compareBy_whole grouped steady follows atOnce⟩
    rw [bucketPlan_whole grouped]
    cases s.breakdownPlan r <;> rfl
  · intro missing
    rw [missing] at totals
    cases Cause.of_compareBy steadyToo follows atOnce totals with
    | query failed => exact .inl ⟨_, failed⟩
    | reading member failed => exact .inr ⟨_, member, .inl failed⟩
    | evaluating member failed => exact .inr ⟨_, member, .inr ⟨_, failed⟩⟩

def panicking (q : Query) : Course :=
  if q.groupBy = some "region" then ⟨some 0, .error (.backend (.panicked "task 4 panicked"))⟩
  else ⟨some 0, .ok ⟨q.functions, q.groupBy.toList, [⟨some 7, ["DE"], [1.0]⟩]⟩⟩

def panickingService : Service Unit where
  backend := .pure panicking
  evaluator := .naming
  timeout := .second
  topK := 1

theorem entry_points_agree_panicking :
    let r := { Request.orderTotals ["country", "region"] with
      granularity := some ⟨0, .milliseconds⟩ }
    (∀ q, (panicking q).latency = some 0) ∧ r.isGrouped = true ∧
    (∃ row, (panickingService.compareTotalsBy Table.entries ⟨(), none, []⟩ r).1 = .ok row ∧
      (panickingService.compareBy (·.entries.reverse) ⟨(), some .empty, []⟩ r.whole.ungrouped).1 =
        .ok ⟨[row]⟩) ∧
    (panickingService.breakdownBy Table.entries ⟨(), none, []⟩ r).1 =
      .error (.backend (.panicked "task 4 panicked")) ∧
    (panickingService.compareBy (·.entries.reverse) ⟨(), some .empty, []⟩ r.whole).1 =
      .error (.backend (.panicked "task 4 panicked")) := by
  intro r
  have atOnce : ∀ q, (panicking q).latency = some 0 := by
    intro q
    unfold panicking
    split <;> rfl
  have agree := entry_points_agree panickingService (fun _ _ => rfl) atOnce
    (w := ⟨(), none, []⟩) (v := ⟨(), some .empty, []⟩) ⟨[], .fresh _ fun _ => rfl⟩
    ⟨[], .fresh _ fun _ => rfl⟩ (fun _ => .refl _) (fun answers => List.reverse_perm _) r
  obtain ⟨⟨-, totals, -⟩, breakdown, -⟩ := agree
  refine ⟨atOnce, rfl, ?_, rfl, ?_⟩
  · obtain ⟨row, succeeded⟩ : ∃ row, (panickingService.compareTotalsBy Table.entries
        ⟨(), none, []⟩ r).1 = .ok row := ⟨_, rfl⟩
    exact ⟨row, succeeded, by rw [totals, succeeded]; rfl⟩
  · rw [(breakdown rfl).2.1]
    rfl

end Service

end PeriodCompare
