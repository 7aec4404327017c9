import Mathlib
import PeriodCompare.Proofs.Expression
import PeriodCompare.Proofs.Refusal

set_option autoImplicit false

namespace PeriodCompare

section Names

variable {columns names : List String} {name : String}

theorem mem_columns_append (asked : name ∈ names) :
    name ∈ columns ++ names.filter (· ∉ columns) := by
  rw [List.mem_append, List.mem_filter, decide_eq_true_eq]
  by_cases column : name ∈ columns
  · exact .inl column
  · exact .inr ⟨asked, column⟩

theorem count_columns_append (nodup : columns.Nodup) (column : name ∈ columns) :
    (columns ++ names.filter (· ∉ columns)).count name = 1 := by
  have notDerived : name ∉ names.filter (· ∉ columns) :=
    fun inside => of_decide_eq_true (List.mem_filter.1 inside).2 column
  rw [List.count_append, List.count_eq_zero_of_not_mem notDerived,
    List.count_eq_one_of_mem nodup column]

end Names

theorem Row.isSome_values (r : Row) (window : Window) (name : String) :
    (r.values window name).isSome ↔ name ∈ r.metricNames := by
  simp [Row.values, Row.metricNames]

namespace PairedIndex

variable (w : PairedIndex) (layout : Layout) (windows : Windows) (functions : List MetricFunction)
  (groupBy : List String)

theorem metricNames_of_mem_join {raw : Row}
    (member : raw ∈ w.join layout windows functions groupBy) :
    raw.metricNames = functions.map (·.metric) := by
  obtain ⟨⟨key, pair⟩, -, rfl⟩ := List.mem_map.1 member
  exact w.metricNames_row functions key pair

end PairedIndex

namespace Evaluator

variable {parse : String → Checked Expr.Tree} {metrics : List MetricExpression}
  {functions : List MetricFunction} {m : MetricExpression} {raw : Row}

theorem derived_names :
    (derived functions metrics).map (·.name) =
      (metrics.map (·.name)).filter (· ∉ functions.map (·.metric)) := by
  have absent (m : MetricExpression) :
      (!functions.any (·.metric = m.name)) = decide (m.name ∉ functions.map (·.metric)) := by
    rw [Bool.eq_iff_iff]
    simp
  simp only [derived, List.filter_map, absent]
  rfl

theorem mem_derived :
    m ∈ derived functions metrics ↔ m ∈ metrics ∧ ∀ f ∈ functions, f.metric ≠ m.name := by
  simp [derived]

theorem failure?_derive (read : (reading parse).columns metrics = .ok functions)
    (member : m ∈ metrics) (named : raw.metricNames = functions.map (·.metric)) :
    ∃ t, parse m.expression = .ok t ∧
      ((reading parse).derive raw m).failure? = t.operatorFault? := by
  obtain ⟨_, collected, columns⟩ := exists_references_of_columns read member
  obtain ⟨t, parsed, collected⟩ := Checked.bind_eq_ok.1 collected
  obtain ⟨names, referenced, rfl⟩ := Checked.map_eq_ok.1 collected
  have bound (window : Window) : ∀ name ∈ names, (raw.values window name).isSome := by
    intro name inNames
    rw [raw.isSome_values, named]
    exact List.mem_map_of_mem (f := MetricFunction.metric) (columns name (mem_distinct.2 inNames))
  have evaluated (window : Window) :
      ((reading parse).evaluate m.expression (raw.values window)).failure? = t.operatorFault? := by
    rw [← Expr.Tree.failure?_eval referenced (bound window)]
    simp only [reading, parsed, Checked.ok_bind]
  have both : ((reading parse).derive raw m).failure? =
      t.operatorFault?.or (t.operatorFault?.or none) := by
    rw [← evaluated .baseline]
    refine Checked.failure?_bind fun x => ?_
    rw [evaluated .baseline, ← evaluated .current]
    exact Checked.failure?_bind fun y => rfl
  exact ⟨t, parsed, by rw [both, Option.or_none, Option.or_self]⟩

end Evaluator

/-- The expression of some metric that is not a column has an operator without a value. -/
def Request.HasUnvalued (r : Request) (parse : String → Checked Expr.Tree)
    (functions : List MetricFunction) : Prop :=
  ∃ m ∈ r.metrics, (∀ f ∈ functions, f.metric ≠ m.name) ∧
    ∃ t, parse m.expression = .ok t ∧ ∃ op ∈ t.operators, op ∉ Expr.BinaryOp.valued

def Reply.toRows : Reply → List Row
  | .comparison c => c.rows
  | .row only => [only]
  | .rows all => all

theorem Call.mem_of_reply (c : Call) {rows : List Row} {reply : Reply}
    (replied : c.reply rows = .ok reply) {row : Row} (member : row ∈ reply.toRows) :
    row ∈ rows := by
  cases c with
  | comparison r =>
    obtain rfl := Except.ok.inj replied
    exact member
  | totals r =>
    cases rows with
    | nil => simp [Call.reply] at replied
    | cons first rest =>
      obtain rfl := Except.ok.inj replied
      obtain rfl := List.mem_singleton.1 member
      exact List.mem_cons_self
  | breakdown r =>
    obtain rfl := Except.ok.inj replied
    exact member

namespace Service

variable {σ : Type} {s : Service σ} {w : World σ} {r : Request} {functions : List MetricFunction}
  {windows : Windows} {queries : List Query} {layout : Layout} {answers : List (Query × Answer)}
  {rows : List Row} {order : Answers → List (Query × Answer)} {parse : String → Checked Expr.Tree}

theorem exists_raw (assembled : s.assemble layout r windows functions answers = .ok rows)
    {row : Row} (member : row ∈ rows) :
    ∃ raw, raw.metricNames = functions.map (·.metric) ∧
      s.evaluator.complete r.metrics functions raw = .ok row := by
  rw [assemble_eq_mapM] at assembled
  obtain ⟨raw, joined, completed⟩ := Checked.exists_of_mem_mapM assembled member
  exact ⟨raw, PairedIndex.metricNames_of_mem_join _ _ _ _ _ joined, completed⟩

theorem metricNames_of_assemble
    (assembled : s.assemble layout r windows functions answers = .ok rows)
    {row : Row} (member : row ∈ rows) :
    row.metricNames = functions.map (·.metric) ++
      (r.metrics.map (·.name)).filter (· ∉ functions.map (·.metric)) := by
  obtain ⟨raw, named, completed⟩ := exists_raw assembled member
  rw [Evaluator.metricNames_of_complete completed, named, Evaluator.derived_names]

theorem isFinite_of_assemble
    (assembled : s.assemble layout r windows functions answers = .ok rows)
    {row : Row} (member : row ∈ rows) {metric : Metric}
    (isDerived : metric ∈ row.metrics.drop functions.length) (window : Window) :
    (metric.value window).isFinite = true := by
  obtain ⟨raw, named, completed⟩ := exists_raw assembled member
  have width : raw.metrics.length = functions.length := by
    simpa [Row.metricNames] using congrArg List.length named
  exact Evaluator.isFinite_of_complete completed (width ▸ isDerived) window

theorem metricNames_of_answerBy {c : Call} {reply : Reply}
    (succeeded : (s.answerBy order w c).1 = .ok reply) :
    ∃ references columns,
      List.Forall₂ (fun m names => s.evaluator.references m.expression = .ok names)
        c.request.metrics references ∧
      (∀ name, name ∈ columns ↔ name ∈ references.flatten) ∧
      columns.Pairwise (fun a b => references.flatten.idxOf a < references.flatten.idxOf b) ∧
      ∀ row ∈ reply.toRows,
        row.metricNames = columns ++ (c.request.metrics.map (·.name)).filter (· ∉ columns) ∧
        (∀ m ∈ c.request.metrics, m.name ∈ row.metricNames) ∧
        (∀ name ∈ columns, row.metricNames.count name = 1) ∧
        ∀ metric ∈ row.metrics.drop columns.length, ∀ window,
          (metric.value window).isFinite = true := by
  obtain ⟨functions, windows, queries, answers, rows, planned, -, assembled, replied⟩ :=
    answerBy_eq_ok.1 succeeded
  have read := (plan_eq_ok planned).1
  simp only [Evaluator.columns, Checked.bind_eq_ok, Checked.pure_eq_ok] at read
  obtain ⟨references, all, rfl⟩ := read
  refine ⟨references, distinct references.flatten, Checked.mapM_eq_ok.1 all,
    fun name => mem_distinct, pairwise_distinct _, fun row inReply => ?_⟩
  have member := c.mem_of_reply replied inReply
  have names := metricNames_of_assemble assembled member
  rw [MetricFunction.map_metric_sum, c.metrics_scope] at names
  refine ⟨names, fun m asked => ?_, fun name column => ?_, fun metric isDerived window => ?_⟩
  · rw [names]
    exact mem_columns_append (List.mem_map_of_mem asked)
  · rw [names]
    exact count_columns_append (nodup_distinct _) column
  · rw [← List.length_map (f := MetricFunction.sum)] at isDerived
    exact isFinite_of_assemble assembled member isDerived window

theorem metricNames_of_answerBy_infinite :
    ∃ row columns,
      ((reporting [⟨none, [], [1.0 / 0.0]⟩]).answerBy Table.entries ⟨(), none, []⟩
        (.totals { Request.orderTotals [] with metrics := [⟨"again", "total"⟩, .raw "total"] })).1 =
          .ok (.row row) ∧
      (∀ name, name ∈ columns ↔ name = "total") ∧
      row.metricNames = columns ++ ["again", "total"].filter (· ∉ columns) ∧
      ∀ metric ∈ row.metrics.drop columns.length, ∀ window,
        (metric.value window).isFinite = true := by
  obtain ⟨row, succeeded⟩ : ∃ row, ((reporting [⟨none, [], [1.0 / 0.0]⟩]).answerBy Table.entries
      ⟨(), none, []⟩ (.totals { Request.orderTotals [] with
        metrics := [⟨"again", "total"⟩, .raw "total"] })).1 = .ok (.row row) := ⟨_, rfl⟩
  obtain ⟨references, columns, read, once, -, rows⟩ := metricNames_of_answerBy succeeded
  obtain ⟨names, -, -, finite⟩ := rows row List.mem_cons_self
  refine ⟨row, columns, succeeded, fun name => ?_, names, finite⟩
  have both : references = [["total"], ["total"]] := by
    rcases read with _ | ⟨first, _ | ⟨second, _ | _⟩⟩
    rw [← Except.ok.inj first, ← Except.ok.inj second]
    rfl
  rw [once, both]
  simp

theorem exists_unvalued_of_assemble (reads : s.evaluator = .reading parse)
    (read : s.evaluator.columns r.metrics = .ok functions) {e : Failure}
    (failed : s.assemble layout r windows functions answers = .error e) :
    e = .expression .unsupportedOperator ∧
      (PairedIndex.ofAnswers layout answers).join layout windows functions r.groupBy ≠ [] ∧
        r.HasUnvalued parse functions := by
  rw [assemble_eq_mapM] at failed
  obtain ⟨raw, joined, incomplete⟩ := Checked.exists_of_mapM_error failed
  rw [Evaluator.complete, Checked.map_eq_error] at incomplete
  obtain ⟨m, isDerived, underived⟩ := Checked.exists_of_mapM_error incomplete
  obtain ⟨asked, apart⟩ := Evaluator.mem_derived.1 isDerived
  rw [reads] at read underived
  obtain ⟨t, parsed, fault⟩ := Evaluator.failure?_derive read asked
    (PairedIndex.metricNames_of_mem_join _ _ _ _ _ joined)
  rw [underived, eq_comm] at fault
  obtain ⟨rfl, unvalued⟩ := Expr.Tree.operatorFault?_eq_some.1 fault
  exact ⟨rfl, List.ne_nil_of_mem joined, m, asked, apart, t, parsed, unvalued⟩

theorem assemble_ne_ok (reads : s.evaluator = .reading parse)
    (read : s.evaluator.columns r.metrics = .ok functions)
    (filled : (PairedIndex.ofAnswers layout answers).join layout windows functions r.groupBy ≠ [])
    (unvalued : r.HasUnvalued parse functions) :
    s.assemble layout r windows functions answers ≠ .ok rows := by
  intro assembled
  obtain ⟨raw, joined⟩ := List.exists_mem_of_ne_nil _ filled
  obtain ⟨m, asked, apart, t, parsed, unvalued⟩ := unvalued
  rw [assemble_eq_mapM] at assembled
  obtain ⟨row, completed⟩ := Checked.exists_of_mapM assembled joined
  obtain ⟨added, all, -⟩ := Evaluator.complete_eq_ok.1 completed
  obtain ⟨metric, derives⟩ := Checked.exists_of_mapM all (Evaluator.mem_derived.2 ⟨asked, apart⟩)
  rw [reads] at read derives
  obtain ⟨_, parsedToo, fault⟩ := Evaluator.failure?_derive read asked
    (PairedIndex.metricNames_of_mem_join _ _ _ _ _ joined)
  obtain rfl := Except.ok.inj (parsed.symm.trans parsedToo)
  rw [derives, Expr.Tree.operatorFault?_eq_some.2 ⟨rfl, unvalued⟩] at fault
  simp [Checked.failure?] at fault

theorem assemble_eq_error (reads : s.evaluator = .reading parse)
    (read : s.evaluator.columns r.metrics = .ok functions) (e : Failure) :
    s.assemble layout r windows functions answers = .error e ↔
      e = .expression .unsupportedOperator ∧
        (PairedIndex.ofAnswers layout answers).join layout windows functions r.groupBy ≠ [] ∧
          r.HasUnvalued parse functions := by
  refine ⟨exists_unvalued_of_assemble reads read, fun fails => ?_⟩
  obtain ⟨rfl, filled, unvalued⟩ := fails
  cases assembled : s.assemble layout r windows functions answers with
  | ok rows => exact absurd assembled (assemble_ne_ok reads read filled unvalued)
  | error other => rw [(exists_unvalued_of_assemble reads read assembled).1]

theorem exists_reply {c : Call} (planned : s.plan c = .ok (functions, windows, queries))
    (assembled : s.assemble c.scope.layout c.scope windows functions answers = .ok rows) :
    ∃ reply, c.reply rows = .ok reply := by
  cases c with
  | comparison r => exact ⟨_, rfl⟩
  | breakdown r => exact ⟨_, rfl⟩
  | totals r =>
    -- Without grouping there is a cell for each bucket, so there is a row to give.
    have cut := (plan_eq_ok planned).2.1
    have positive := Request.windows_size_pos cut
    have joined := (PairedIndex.ofAnswers .tabular answers).forall₂_join .tabular windows functions
      [] (Request.windows_aligned cut) positive
    have size : windows.size = rows.length := by
      have all := joined.length_eq.trans (forall₂_assemble assembled).length_eq
      rwa [Layout.cells_tabular, List.length_map, List.length_range] at all
    obtain ⟨row, rest, rfl⟩ := List.exists_cons_of_length_pos (size ▸ positive)
    exact ⟨_, rfl⟩

theorem fails_iff_unvalued (reads : s.evaluator = .reading parse)
    (read : s.evaluator.columns r.metrics = .ok functions) (e : Failure) :
    (∀ layout windows answers, s.assemble layout r windows functions answers = .error e ↔
      e = .expression .unsupportedOperator ∧
        (PairedIndex.ofAnswers layout answers).join layout windows functions r.groupBy ≠ [] ∧
          r.HasUnvalued parse functions) ∧
    ∀ c : Call, c.request = r → ∀ order w windows queries answers,
      s.plan c = .ok (functions, windows, queries) →
      (w.run s.backend s.timeout (c.await s.timeout) queries).1 = .ok answers →
      ((s.answerBy order w c).1 = .error e ↔
        e = .expression .unsupportedOperator ∧
          (PairedIndex.ofAnswers c.scope.layout (order answers)).join c.scope.layout windows
            functions c.scope.groupBy ≠ [] ∧
            r.HasUnvalued parse functions) := by
  refine ⟨fun _ _ _ => assemble_eq_error reads read e, ?_⟩
  intro c same order w windows queries answers planned ran
  subst same
  rw [← c.metrics_scope] at read
  have sameMetrics : c.request.HasUnvalued parse functions = c.scope.HasUnvalued parse functions := by
    rw [Request.HasUnvalued, Request.HasUnvalued, c.metrics_scope]
  rw [sameMetrics, ← assemble_eq_error reads read e, fst_answerBy planned ran]
  cases assembled : s.assemble c.scope.layout c.scope windows functions (order answers) with
  | error other => simp
  | ok rows =>
    obtain ⟨reply, replied⟩ := exists_reply planned assembled
    simp [replied]

theorem parsed_both : Evaluator.parsed "total and total" =
    .ok (.binary .and .plain (.selector (.named "total")) (.selector (.named "total"))) := by
  cbv

theorem fails_iff_unvalued_both :
    let s := { reporting [] with evaluator := .arithmetic }
    let r := { Request.orderTotals [] with metrics := [⟨"both", "total and total"⟩] }
    s.evaluator.columns r.metrics = .ok [.sum "total"] ∧
      (s.answerBy Table.entries ⟨(), none, []⟩ (.totals r)).1 =
        .error (.expression .unsupportedOperator) := by
  intro s r
  have references : s.evaluator.references "total and total" = .ok ["total"] := by
    simp only [s, Evaluator.arithmetic, Evaluator.reading, parsed_both, Checked.ok_bind]
    rfl
  have read : s.evaluator.columns r.metrics = .ok [.sum "total"] :=
    Evaluator.columns_of_references (.cons references .nil) rfl
  have planned : s.plan (.totals r) =
      .ok ([.sum "total"], r.wholeWindows, Window.all.map (r.totalQuery [.sum "total"] 0)) := by
    rw [plan_totals, totalPlan, read]
    rfl
  have unvalued : r.HasUnvalued Evaluator.parsed [.sum "total"] :=
    ⟨_, List.mem_cons_self, by decide, _, parsed_both, by decide⟩
  refine ⟨read, ?_⟩
  obtain ⟨-, onCall⟩ := fails_iff_unvalued (s := s) rfl read (.expression .unsupportedOperator)
  exact (onCall (.totals r) rfl Table.entries ⟨(), none, []⟩ _ _ _ planned rfl).2
    ⟨rfl, List.cons_ne_nil _ _, unvalued⟩

end Service

end PeriodCompare
