import Mathlib
import PeriodCompare.Proofs.Expression
import PeriodCompare.Proofs.StoreComparison

set_option autoImplicit false

namespace PeriodCompare

section Narrowed

variable (nan : List Record → Numeric.NaN) (functions more : List MetricFunction)
  (dimension : String) (records : List Record)

def AnswerRow.narrowed (n : Nat) (row : AnswerRow) : AnswerRow :=
  { row with metrics := row.metrics.take n }

def Group.narrowed (n : Nat) (g : Group) : Group :=
  { g with totals := g.totals.take n }

@[simp] theorem AnswerRow.carries_narrowed (n : Nat) (row : AnswerRow) (value : Option String) :
    (row.narrowed n).carries value = row.carries value := by
  cases value <;> rfl

theorem narrowed_groupOf (value : String) :
    (groupOf (functions ++ more) dimension records value).narrowed functions.length =
      groupOf functions dimension records value := by
  simp [Group.narrowed, groupOf]

theorem narrowed_sharedGroup (values : List String) :
    (sharedGroup (functions ++ more) dimension records values).narrowed functions.length =
      sharedGroup functions dimension records values := by
  simp [Group.narrowed, sharedGroup]

variable {functions}

-- Groups are ranked by their first metric, so that further ones do not count.
theorem ranking_append {first : MetricFunction} (leads : functions.head? = some first) :
    ranking nan (functions ++ more) dimension records = ranking nan functions dimension records := by
  have leadsToo : (functions ++ more).head? = some first := by simp [leads]
  exact (isRanking_ranking nan dimension records leads).unique
    (isRanking_ranking nan dimension records leadsToo)

theorem capped_append {first : MetricFunction} (leads : functions.head? = some first)
    (topK : Option Nat) :
    (capped (functions ++ more) topK (ranked nan (functions ++ more) dimension records)).map
        (Group.narrowed functions.length) =
      capped functions topK (ranked nan functions dimension records) := by
  rw [capped_eq, capped_eq, ranking_append nan more dimension records leads, List.map_append,
    List.map_map]
  congr 1
  · exact List.map_congr_left fun value _ => narrowed_groupOf ..
  · split
    · rfl
    · rw [List.map_singleton, narrowed_sharedGroup]

end Narrowed

def Query.widened (q : Query) (more : List MetricFunction) : Query :=
  { q with functions := q.functions ++ more }

namespace Store

variable {q : Query} {more : List MetricFunction} {first : MetricFunction}

theorem rows_answer_widened (st : Store) (leads : q.functions.head? = some first) :
    (st.answer (q.widened more)).rows.map (AnswerRow.narrowed q.functions.length) =
      (st.answer q).rows := by
  have matched : (st.records q.collection).filter (·.isMatch (q.widened more)) =
      (st.records q.collection).filter (·.isMatch q) := rfl
  cases grouped : q.groupBy with
  | none =>
    simp only [answer, answerFrom, Query.widened, grouped] at matched ⊢
    rw [matched]
    split
    · rfl
    · simp [AnswerRow.narrowed, totals]
  | some dimension =>
    have leadsToo : (q.functions ++ more).head? = q.functions.head? := by simp [leads]
    simp only [answer, answerFrom, Query.widened, grouped, leadsToo] at matched ⊢
    rw [matched, List.map_map, ← capped_append _ more dimension _ leads, List.map_map]
    rfl

theorem lastRow?_widened (st : Store) (leads : q.functions.head? = some first)
    (value : Option String) :
    ((st.answer (q.widened more)).lastRow? value).map (AnswerRow.narrowed q.functions.length) =
      (st.answer q).lastRow? value := by
  have rows : (st.answer (q.widened more)).rows.map _ = (st.answer q).rows :=
    st.rows_answer_widened leads
  rw [Answer.lastRow?, Answer.lastRow?, ← rows, List.filter_map, List.getLast?_map]
  simp only [Function.comp_def, AnswerRow.carries_narrowed]

end Store

structure Row.Widened (functions more : List MetricFunction) (raw wide : Row) : Prop where
  names : raw.metrics.map (·.name) = functions.map (·.metric)
  grown : ∃ extra, extra.map (·.name) = more.map (·.metric) ∧
    wide = { raw with metrics := raw.metrics ++ extra }

namespace Request

variable {r : Request} {topK : Nat} {functions more : List MetricFunction} {first : MetricFunction}
  {windows : Windows} {pair : Interval × Interval} {cell : Cell} {st : Store}

def adding (r : Request) (m : MetricExpression) : Request :=
  { r with metrics := r.metrics ++ [m] }

theorem query_adding (m : MetricExpression) (pair : Interval × Interval) (bucket : Nat)
    (dimension : Option String) (window : Window) :
    ((r.adding m).withWindows pair.1 pair.2).query topK (functions ++ more) bucket dimension window =
      ((r.withWindows pair.1 pair.2).query topK functions bucket dimension window).widened more := by
  cases dimension <;> rfl

theorem bucketQueries_adding {m : MetricExpression} {queries others : List Query}
    (batch : r.bucketQueries topK functions windows = .ok queries)
    (batchToo : (r.adding m).bucketQueries topK (functions ++ more) windows = .ok others) :
    others = queries.map (·.widened more) := by
  have breakdowns : (r.adding m).breakdowns = r.breakdowns := rfl
  rw [bucketQueries_eq_ok batch, bucketQueries_eq_ok batchToo, List.map_flatMap]
  simp only [List.map_flatMap, List.map_map, breakdowns, Function.comp_def, ← query_adding m]

theorem rawValue_adding (m : MetricExpression) (leads : functions.head? = some first) {i : Nat}
    (inside : i < functions.length) (window : Window) :
    (r.adding m).rawValue topK (functions ++ more) st.answer pair cell i window =
      r.rawValue topK functions st.answer pair cell i window := by
  have asked : (r.adding m).cellQuery topK (functions ++ more) pair cell window =
      (r.cellQuery topK functions pair cell window).widened more := query_adding ..
  have same : (r.cellQuery topK functions pair cell window).functions = functions :=
    query_functions ..
  have narrowed : ((st.answer ((r.cellQuery topK functions pair cell window).widened more)).lastRow?
      cell.value?).map _ = _ := st.lastRow?_widened (same.symm ▸ leads) cell.value?
  rw [same] at narrowed
  rw [rawValue, rawValue, cellRow?, cellRow?, asked, ← narrowed, Option.bind_map]
  simp only [Function.comp_def, AnswerRow.narrowed, List.getElem?_take_of_lt inside]

theorem widened_rawRow (m : MetricExpression) (leads : functions.head? = some first) :
    Row.Widened functions more (r.rawRow topK functions st.answer pair cell)
      ((r.adding m).rawRow topK (functions ++ more) st.answer pair cell) where
  names := by
    rw [rawRow, List.map_map]
    exact map_zipIdx_eq functions 0 fun _ _ _ => rfl
  grown := by
    let column (place : MetricFunction × Nat) : Metric :=
      ⟨place.1.metric,
        (r.adding m).rawValue topK (functions ++ more) st.answer pair cell place.2 .baseline,
        (r.adding m).rawValue topK (functions ++ more) st.answer pair cell place.2 .current⟩
    have same : functions.zipIdx.map column =
        (r.rawRow topK functions st.answer pair cell).metrics := by
      refine List.map_congr_left fun place member => ?_
      have inside : place.2 < functions.length := by simpa using (List.mem_zipIdx member).2.1
      simp only [column, rawValue_adding m leads inside]
    refine ⟨(more.zipIdx functions.length).map column, ?_, ?_⟩
    · rw [List.map_map]
      exact map_zipIdx_eq more functions.length fun _ _ _ => rfl
    · rw [← same, ← List.map_append, ← Nat.zero_add functions.length, ← List.zipIdx_append]
      rfl

end Request

namespace Row.Widened

variable {functions more : List MetricFunction} {raw wide : Row} {name : String}

theorem metric?_of_column (widened : Widened functions more raw wide)
    (column : MetricFunction.sum name ∈ functions) :
    ∃ metric, raw.metric? name = some metric ∧ wide.metric? name = some metric := by
  obtain ⟨extra, -, rfl⟩ := widened.grown
  have named : name ∈ raw.metrics.map (·.name) :=
    widened.names ▸ List.mem_map_of_mem (f := MetricFunction.metric) column
  obtain ⟨shared, inRaw, same⟩ := List.mem_map.1 named
  obtain ⟨metric, found⟩ := Option.isSome_iff_exists.1
    (List.find?_isSome.2 ⟨shared, inRaw, decide_eq_true same⟩ : (raw.metric? name).isSome)
  refine ⟨metric, found, ?_⟩
  rw [metric?, List.find?_append]
  exact Option.or_eq_some_iff.2 (.inl found)

theorem not_mem_extra {extra : List Metric} (names : extra.map (·.name) = more.map (·.metric))
    (apart : ∀ f ∈ more, f.metric ≠ name) : ∀ metric ∈ extra, metric.name ≠ name := by
  intro metric inExtra same
  have named : name ∈ more.map (·.metric) := names ▸ List.mem_map.2 ⟨metric, inExtra, same⟩
  obtain ⟨f, inMore, sameToo⟩ := List.mem_map.1 named
  exact apart f inMore sameToo

theorem metric?_eq_none (widened : Widened functions more raw wide)
    (apart : ∀ f ∈ functions ++ more, f.metric ≠ name) :
    raw.metric? name = none ∧ wide.metric? name = none := by
  obtain ⟨extra, names, rfl⟩ := widened.grown
  rw [List.forall_mem_append] at apart
  simp only [metric?, List.find?_append, Option.or_eq_none_iff, List.find?_eq_none,
    decide_eq_true_eq]
  have inRaw := not_mem_extra widened.names apart.1
  exact ⟨inRaw, inRaw, not_mem_extra names apart.2⟩

theorem values_eq (widened : Widened functions more raw wide)
    (apart : ∀ f ∈ more, f.metric ≠ name) (window : Window) :
    raw.values window name = wide.values window name := by
  obtain ⟨extra, names, rfl⟩ := widened.grown
  have none : extra.filter (·.name = name) = [] := by
    simpa [List.filter_eq_nil_iff] using not_mem_extra names apart
  simp only [values, List.filter_append, none, List.append_nil]

end Row.Widened

namespace Evaluator

variable {v : Evaluator} {metrics : List MetricExpression} {functions : List MetricFunction}
  {raw wide row : Row} {m : MetricExpression} {name : String}

theorem Local.derive_congr (isLocal : v.Local) {names : List String}
    (read : v.references m.expression = .ok names)
    (agree : ∀ window, ∀ name ∈ names, raw.values window name = wide.values window name) :
    v.derive raw m = v.derive wide m := by
  have evaluate (window : Window) :
      v.evaluate m.expression (raw.values window) = v.evaluate m.expression (wide.values window) :=
    isLocal _ names read _ _ (agree window)
  rw [derive, derive, evaluate, evaluate]

theorem find?_of_derive {ms : List MetricExpression} {added : List Metric}
    (all : List.Forall₂ (fun m metric => v.derive raw m = .ok metric) ms added)
    (found : ms.find? (·.name = name) = some m) :
    ∃ metric, v.derive raw m = .ok metric ∧ added.find? (·.name = name) = some metric := by
  induction all with
  | nil => simp at found
  | @cons first metric rest others derived _ ih =>
    rw [List.find?_cons] at found ⊢
    rw [name_of_derive derived]
    cases same : decide (first.name = name) with
    | true =>
      rw [same] at found
      obtain rfl := Option.some.inj found
      exact ⟨metric, derived, rfl⟩
    | false =>
      rw [same] at found
      exact ih found

theorem metric?_of_raw (completed : v.complete metrics functions raw = .ok row) {metric : Metric}
    (found : raw.metric? name = some metric) : row.metric? name = some metric := by
  obtain ⟨added, -, rfl⟩ := complete_eq_ok.1 completed
  rw [Row.metric?, List.find?_append]
  exact Option.or_eq_some_iff.2 (.inl found)

theorem metric?_of_derived (completed : v.complete metrics functions raw = .ok row)
    (absent : raw.metric? name = none) (apart : ∀ f ∈ functions, f.metric ≠ name)
    (first : metrics.find? (·.name = name) = some m) :
    ∃ metric, v.derive raw m = .ok metric ∧ row.metric? name = some metric := by
  obtain ⟨added, all, rfl⟩ := complete_eq_ok.1 completed
  have isDerived : (derived functions metrics).find? (·.name = name) = some m := by
    rw [derived, List.find?_filter, ← first]
    congr 1
    funext other
    by_cases same : other.name = name
    · simpa [same] using apart
    · simp [same]
  obtain ⟨metric, made, found⟩ := find?_of_derive (Checked.mapM_eq_ok.1 all) isDerived
  refine ⟨metric, made, ?_⟩
  rw [Row.metric?, List.find?_append]
  exact Option.or_eq_some_iff.2 (.inr ⟨absent, found⟩)

theorem metric?_adding (isLocal : v.Local) {e : MetricExpression} {names : List String}
    {more : List MetricFunction} {other : Row} (read : v.columns metrics = .ok functions)
    (new : ∀ f ∈ more, f.metric ∈ names ∧ f ∉ functions)
    (widened : Row.Widened functions more raw wide)
    (completed : v.complete metrics functions raw = .ok row)
    (completedToo : v.complete (metrics ++ [e]) (functions ++ more) wide = .ok other)
    (member : m ∈ metrics) (kept : MetricFunction.sum m.name ∈ functions ∨ m.name ∉ names) :
    ∃ metric, row.metric? m.name = some metric ∧ other.metric? m.name = some metric := by
  by_cases column : MetricFunction.sum m.name ∈ functions
  · obtain ⟨metric, found, foundToo⟩ := widened.metric?_of_column column
    exact ⟨metric, metric?_of_raw completed found, metric?_of_raw completedToo foundToo⟩
  · have unreferenced := kept.resolve_left column
    have apart : ∀ f ∈ functions, f.metric ≠ m.name := fun f inFunctions same =>
      column (same ▸ f.eq_sum ▸ inFunctions)
    have apartToo : ∀ f ∈ functions ++ more, f.metric ≠ m.name :=
      List.forall_mem_append.2 ⟨apart, fun f inMore same => unreferenced (same ▸ (new f inMore).1)⟩
    obtain ⟨absent, absentToo⟩ := widened.metric?_eq_none apartToo
    obtain ⟨first, isFirst⟩ := Option.isSome_iff_exists.1
      (List.find?_isSome.2 ⟨m, member, decide_eq_true rfl⟩ :
        (metrics.find? (·.name = m.name)).isSome)
    have isFirstToo : (metrics ++ [e]).find? (·.name = m.name) = some first := by
      rw [List.find?_append]
      exact Option.or_eq_some_iff.2 (.inl isFirst)
    -- What the first of this name refers to are columns already, and no new one has their names.
    obtain ⟨references, readFirst, columns⟩ :=
      exists_references_of_columns read (List.mem_of_find?_eq_some isFirst)
    have agree (window : Window) : ∀ name ∈ references,
        raw.values window name = wide.values window name := fun name referenced =>
      widened.values_eq (fun f inMore same =>
        (new f inMore).2 (f.eq_sum ▸ same ▸ columns name referenced)) window
    obtain ⟨metric, made, found⟩ := metric?_of_derived completed absent apart isFirst
    obtain ⟨again, madeToo, foundToo⟩ :=
      metric?_of_derived completedToo absentToo apartToo isFirstToo
    rw [← isLocal.derive_congr readFirst agree, made] at madeToo
    obtain rfl := Except.ok.inj madeToo
    exact ⟨metric, found, foundToo⟩

end Evaluator

section Doubled

def Expr.Tree.sum (left right : String) : Expr.Tree :=
  .binary .add .plain (.selector (.named left)) (.selector (.named right))

namespace Evaluator

variable {left right source name : String} {raw : Row}

theorem references_sum (parse : parsed source = .ok (.sum left right)) :
    arithmetic.references source = .ok (distinct [left, right]) := by
  simp only [arithmetic, reading, parse, Checked.ok_bind]
  rfl

theorem derive_sum {x y : Window → Float} (parse : parsed source = .ok (.sum left right))
    (first : ∀ window, raw.values window left = some (x window))
    (second : ∀ window, raw.values window right = some (y window)) :
    arithmetic.derive raw ⟨name, source⟩ =
      .ok ⟨name, finitePart (x .baseline + y .baseline), finitePart (x .current + y .current)⟩ := by
  have evaluate (values : Expr.Values) :
      arithmetic.evaluate source values = (Expr.Tree.sum left right).eval values := by
    simp only [arithmetic, reading, parse, Checked.ok_bind]
  rw [derive, evaluate, evaluate]
  simp only [Expr.Tree.sum, Expr.Tree.eval, Expr.Selector.name?, Expr.Selector.named,
    Checked.ok_bind, first, second, Expr.BinaryOp.value?]
  rfl

end Evaluator

def Request.ofMetrics (metrics : List MetricExpression) : Request :=
  { Request.orderTotals [] with metrics := metrics }

theorem Request.ofMetrics_adding (metrics : List MetricExpression) (m : MetricExpression) :
    (ofMetrics metrics).adding m = ofMetrics (metrics ++ [m]) :=
  rfl

namespace Store

def promptSales : Store :=
  { sales with latency := 0 }

def promptService : Service Unit :=
  promptSales.service .arithmetic .second 1

def salesRow (functions : List MetricFunction) (added : List Metric) : Row where
  baseline := (Request.ofMetrics []).baseline
  current := (Request.ofMetrics []).current
  dimension := none
  metrics := (functions.map fun f =>
    ⟨f.metric, total ([sale 0 "DE" 2.0, sale 4 "AT" 3.0, sale 9 "DE" 2.0].filterMap
        (·.metrics.get? f.metric)),
      total ([sale 10 "AT" 1.0].filterMap (·.metrics.get? f.metric))⟩) ++ added

def salesTotal : Window → Float
  | .baseline => total [2.0, 3.0, 2.0]
  | .current => total [1.0]

def doubledTotal (name : String) : Metric :=
  ⟨name, finitePart (salesTotal .baseline + salesTotal .baseline),
    finitePart (salesTotal .current + salesTotal .current)⟩

theorem compareBy_promptSales {metrics : List MetricExpression} {functions : List MetricFunction}
    {queries : List Query} {added : List Metric}
    (planned : promptService.bucketPlan (.ofMetrics metrics) =
      .ok (functions, (Request.ofMetrics metrics).wholeWindows, queries))
    (derives : List.Forall₂
      (fun m metric => Evaluator.arithmetic.derive (salesRow functions []) m = .ok metric)
      (Evaluator.derived functions metrics) added) :
    (promptService.compareBy Table.entries ⟨(), none, []⟩ (.ofMetrics metrics)).1 =
      .ok ⟨[salesRow functions added]⟩ := by
  have raw : (Request.ofMetrics metrics).rawRow 1 functions promptSales.answer
      ((Request.ofMetrics []).baseline, (Request.ofMetrics []).current) ⟨none, 0⟩ =
        salesRow functions [] := by
    rw [rawRow_ungrouped fun window => by cases window <;> rfl, salesRow, List.append_nil]
    rfl
  have completed : Evaluator.arithmetic.complete metrics functions (salesRow functions []) =
      .ok (salesRow functions added) :=
    Evaluator.complete_eq_ok.2 ⟨added, Checked.mapM_eq_ok.2 derives, by simp [salesRow]⟩
  rw [← raw] at completed
  exact (compareBy_eq_ok ⟨[], .fresh _ fun _ => rfl⟩ (fun _ => .refl _) (by decide) planned
    fun _ _ => rfl).2 (.cons ⟨_, rfl, completed⟩ .nil)

theorem parsed_doubled : Evaluator.parsed "total + total" = .ok (.sum "total" "total") := by
  cbv

theorem parsed_tripled : Evaluator.parsed "doubled + total" = .ok (.sum "doubled" "total") := by
  cbv

theorem derive_doubled (name : String) :
    Evaluator.arithmetic.derive (salesRow [.sum "total"] []) ⟨name, "total + total"⟩ =
      .ok (doubledTotal name) := by
  have values (window : Window) :
      (salesRow [.sum "total"] []).values window "total" = some (salesTotal window) := by
    cases window <;> rfl
  exact Evaluator.derive_sum parsed_doubled values values

theorem compareBy_doubled :
    (promptService.compareBy Table.entries ⟨(), none, []⟩
      (.ofMetrics [⟨"doubled", "total + total"⟩])).1 =
        .ok ⟨[salesRow [.sum "total"] [doubledTotal "doubled"]]⟩ := by
  have columns : Evaluator.arithmetic.columns [⟨"doubled", "total + total"⟩] =
      .ok [.sum "total"] :=
    Evaluator.columns_of_references (.cons (Evaluator.references_sum parsed_doubled) .nil) rfl
  exact compareBy_promptSales (Service.bucketPlan_eq_ok.2 ⟨columns, rfl, rfl⟩)
    (.cons (derive_doubled "doubled") .nil)

theorem compareBy_doubled_twice :
    (promptService.compareBy Table.entries ⟨(), none, []⟩
      ((Request.ofMetrics [⟨"doubled", "total + total"⟩]).adding ⟨"twice", "total + total"⟩)).1 =
        .ok ⟨[salesRow [.sum "total"] [doubledTotal "doubled", doubledTotal "twice"]]⟩ := by
  have columns : Evaluator.arithmetic.columns
      [⟨"doubled", "total + total"⟩, ⟨"twice", "total + total"⟩] = .ok [.sum "total"] :=
    Evaluator.columns_of_references (.cons (Evaluator.references_sum parsed_doubled)
      (.cons (Evaluator.references_sum parsed_doubled) .nil)) rfl
  rw [Request.ofMetrics_adding, List.singleton_append]
  exact compareBy_promptSales (Service.bucketPlan_eq_ok.2 ⟨columns, rfl, rfl⟩)
    (.cons (derive_doubled "doubled") (.cons (derive_doubled "twice") .nil))

/-- Three times the total, once `doubled` is a column: no record has a value for it. -/
def tripledTotal : Metric :=
  ⟨"tripled", finitePart (total [] + salesTotal .baseline),
    finitePart (total [] + salesTotal .current)⟩

theorem compareBy_doubled_tripled :
    (promptService.compareBy Table.entries ⟨(), none, []⟩
      ((Request.ofMetrics [⟨"doubled", "total + total"⟩]).adding
        ⟨"tripled", "doubled + total"⟩)).1 =
        .ok ⟨[salesRow [.sum "total", .sum "doubled"] [tripledTotal]]⟩ := by
  have columns : Evaluator.arithmetic.columns
      [⟨"doubled", "total + total"⟩, ⟨"tripled", "doubled + total"⟩] =
        .ok [.sum "total", .sum "doubled"] :=
    Evaluator.columns_of_references (.cons (Evaluator.references_sum parsed_doubled)
      (.cons (Evaluator.references_sum parsed_tripled) .nil)) rfl
  have doubled (window : Window) :
      (salesRow [.sum "total", .sum "doubled"] []).values window "doubled" = some (total []) := by
    cases window <;> rfl
  have totals (window : Window) :
      (salesRow [.sum "total", .sum "doubled"] []).values window "total" =
        some (salesTotal window) := by
    cases window <;> rfl
  have tripled : Evaluator.arithmetic.derive (salesRow [.sum "total", .sum "doubled"] [])
      ⟨"tripled", "doubled + total"⟩ = .ok tripledTotal :=
    Evaluator.derive_sum (x := fun _ => total []) parsed_tripled doubled totals
  rw [Request.ofMetrics_adding, List.singleton_append]
  exact compareBy_promptSales (Service.bucketPlan_eq_ok.2 ⟨columns, rfl, rfl⟩) (.cons tripled .nil)

end Store

end Doubled

namespace Store

variable {parse : String → Checked Expr.Tree} {st : Store} {w v : World Unit}
  {timeout : Duration} {topK : Nat} {r : Request} {e : MetricExpression}
  {functions more : List MetricFunction} {queries : List Query}
  {order reorder : Answers → List (Query × Answer)} {c d : Comparison}

theorem seen_widened {first : MetricFunction}
    (leads : ∀ q ∈ queries, q.functions.head? = some first) (shown : Dimension) :
    Seen (st.answers (queries.map (·.widened more))).entries shown ↔
      Seen (st.answers queries).entries shown := by
  have widen : Seen (st.answers (queries.map (·.widened more))).entries shown ↔ _ :=
    Service.seen_responses
  have narrow : Seen (st.answers queries).entries shown ↔ _ := Service.seen_responses
  rw [widen, narrow]
  simp only [List.mem_map, exists_exists_and_eq_and]
  refine exists_congr fun q => and_congr_right fun asked => and_congr_right fun _ => ?_
  rw [← st.rows_answer_widened (leads q asked)]
  simp only [List.mem_map, exists_exists_and_eq_and]
  rfl

theorem row_adding {windows : Windows} {first : MetricFunction} {names : List String} {cell : Cell}
    {row other : Row} (columns : (Evaluator.reading parse).columns r.metrics = .ok functions)
    (new : ∀ f ∈ more, f.metric ∈ names ∧ f ∉ functions) (leads : functions.head? = some first)
    (completes : (st.service (.reading parse) timeout topK).Completes r functions windows st.answer
      cell row)
    (completesToo : (st.service (.reading parse) timeout topK).Completes (r.adding e)
      (functions ++ more) windows st.answer cell other) :
    other.baseline = row.baseline ∧ other.current = row.current ∧
      other.dimension = row.dimension ∧
      ∀ m ∈ r.metrics, MetricFunction.sum m.name ∈ functions ∨ m.name ∉ names →
        ∃ metric, row.metric? m.name = some metric ∧ other.metric? m.name = some metric := by
  obtain ⟨pair, found, completed⟩ := completes
  obtain ⟨_, foundToo, completedToo⟩ := completesToo
  obtain rfl := Option.some.inj (found.symm.trans foundToo)
  have extended := Evaluator.extends_of_complete completed
  have extendedToo := Evaluator.extends_of_complete completedToo
  refine ⟨extendedToo.baseline.trans extended.baseline.symm,
    extendedToo.current.trans extended.current.symm,
    extendedToo.dimension.trans extended.dimension.symm, fun m member kept => ?_⟩
  exact Evaluator.metric?_adding (Evaluator.local_reading parse) columns new
    (Request.widened_rawRow e leads) completed completedToo member kept

/-- A further metric leaves the rows and the other metrics of a comparison as they are, apart from
those whose name it alone refers to: they become columns. -/
theorem compareBy_adding (reached : w.Reached st.backend) (reachedToo : v.Reached st.backend)
    (orders : ∀ answers, (order answers).Perm answers.entries)
    (reorders : ∀ answers, (reorder answers).Perm answers.entries)
    (succeeded : ((st.service (.reading parse) timeout topK).compareBy order w r).1 = .ok c)
    (succeededToo :
      ((st.service (.reading parse) timeout topK).compareBy reorder v (r.adding e)).1 = .ok d) :
    ∃ functions names,
      (Evaluator.reading parse).columns r.metrics = .ok functions ∧
      (Evaluator.reading parse).references e.expression = .ok names ∧
      List.Forall₂ (fun row other =>
        other.baseline = row.baseline ∧ other.current = row.current ∧
        other.dimension = row.dimension ∧
        ∀ m ∈ r.metrics, MetricFunction.sum m.name ∈ functions ∨ m.name ∉ names →
          ∃ metric, row.metric? m.name = some metric ∧ other.metric? m.name = some metric)
        c.rows d.rows := by
  obtain ⟨functions, windows, queries, planned, answered, completes⟩ :=
    forall₂_completes reached orders succeeded
  obtain ⟨wider, windowsToo, others, plannedToo, answeredToo, completesToo⟩ :=
    forall₂_completes reachedToo reorders succeededToo
  obtain ⟨columns, cutInto, batch⟩ := Service.bucketPlan_eq_ok.1 planned
  obtain ⟨columnsToo, cutToo, batchToo⟩ := Service.bucketPlan_eq_ok.1 plannedToo
  obtain ⟨_, names, more, columnsAgain, read, rfl, new⟩ := Evaluator.columns_append columnsToo
  obtain rfl := Except.ok.inj (columns.symm.trans columnsAgain)
  obtain rfl := Except.ok.inj (cutInto.symm.trans cutToo)
  obtain rfl := Request.bucketQueries_adding batch batchToo
  obtain ⟨first, leads⟩ := Request.exists_head?_of_bucketQueries cutInto batch
  refine ⟨functions, names, columns, read, ?_⟩
  have leadsEach : ∀ q ∈ queries, q.functions.head? = some first := by
    intro q asked
    obtain ⟨_, _, _, _, -, -, rfl⟩ := (Request.mem_bucketQueries batch q).1 asked
    rwa [Request.query_functions]
  have cells := answered.covers.eq answeredToo.covers rfl (seen_widened leadsEach)
  rw [cells] at completesToo
  refine (forall₂_comp completes.flip completesToo).imp fun row other made => ?_
  obtain ⟨cell, completed, completedToo⟩ := made
  exact row_adding columns new leads completed completedToo

theorem compareBy_adding_twice : ∃ row other,
    (promptService.compareBy Table.entries ⟨(), none, []⟩
      (.ofMetrics [⟨"doubled", "total + total"⟩])).1 = .ok ⟨[row]⟩ ∧
    (promptService.compareBy Table.entries ⟨(), none, []⟩
      ((Request.ofMetrics [⟨"doubled", "total + total"⟩]).adding
        ⟨"twice", "total + total"⟩)).1 = .ok ⟨[other]⟩ ∧
    other.dimension = row.dimension ∧ row.metric? "doubled" = some ⟨"doubled", 14.0, 2.0⟩ ∧
      other.metric? "doubled" = some ⟨"doubled", 14.0, 2.0⟩ := by
  have reached : World.Reached promptSales.backend ⟨(), none, []⟩ := ⟨[], .fresh _ fun _ => rfl⟩
  obtain ⟨_, names, -, read, rows⟩ := compareBy_adding reached reached (fun _ => .refl _)
    (fun _ => .refl _) compareBy_doubled compareBy_doubled_twice
  obtain rfl := Except.ok.inj (read.symm.trans (Evaluator.references_sum parsed_doubled))
  obtain ⟨⟨-, -, same, kept⟩, -⟩ := List.forall₂_cons.1 rows
  obtain ⟨metric, shown, shownToo⟩ := kept _ (List.mem_singleton_self _) (.inr (by decide))
  obtain rfl : ⟨"doubled", 14.0, 2.0⟩ = metric := Option.some.inj shown
  exact ⟨_, _, compareBy_doubled, compareBy_doubled_twice, same, shown, shownToo⟩

theorem adding_changes_metric : ∃ row other x y,
    (promptService.compareBy Table.entries ⟨(), none, []⟩
      (.ofMetrics [⟨"doubled", "total + total"⟩])).1 = .ok ⟨[row]⟩ ∧
    (promptService.compareBy Table.entries ⟨(), none, []⟩
      ((Request.ofMetrics [⟨"doubled", "total + total"⟩]).adding
        ⟨"tripled", "doubled + total"⟩)).1 = .ok ⟨[other]⟩ ∧
    row.metric? "doubled" = some x ∧ other.metric? "doubled" = some y ∧
      x.baseline ≠ y.baseline :=
  ⟨salesRow [.sum "total"] [doubledTotal "doubled"],
    salesRow [.sum "total", .sum "doubled"] [tripledTotal],
    doubledTotal "doubled", ⟨"doubled", total [], total []⟩,
    compareBy_doubled, compareBy_doubled_tripled, rfl, rfl, by decide⟩

end Store

end PeriodCompare
