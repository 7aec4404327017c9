import Mathlib.Data.Set.Card
import PeriodCompare.Proofs.Derivation
import PeriodCompare.Proofs.Joined
import PeriodCompare.Proofs.Run
import PeriodCompare.Service

set_option autoImplicit false

namespace PeriodCompare

namespace Row

def Reads (functions : List MetricFunction) (value : Window → Nat → MetricFunction → Float)
    (row : Row) : Prop :=
  ∀ i f, functions[i]? = some f →
    ∃ m : Metric, row.metrics[i]? = some m ∧ m.name = f.metric ∧
      ∀ window, m.value window = value window i f

theorem Reads.congr {functions : List MetricFunction}
    {value other : Window → Nat → MetricFunction → Float} {row : Row}
    (reads : row.Reads functions value)
    (same : ∀ window i f, functions[i]? = some f → value window i f = other window i f) :
    row.Reads functions other := by
  intro i f column
  obtain ⟨m, found, name, values⟩ := reads i f column
  exact ⟨m, found, name, fun window => (values window).trans (same window i f column)⟩

theorem Reads.getElem?_metrics {functions : List MetricFunction}
    {value : Window → Nat → MetricFunction → Float} {row : Row} (reads : row.Reads functions value)
    {i : Nat} {f : MetricFunction} (column : functions[i]? = some f) :
    row.metrics[i]? = some ⟨f.metric, value .baseline i f, value .current i f⟩ := by
  obtain ⟨⟨name, baseline, current⟩, found, rfl, values⟩ := reads i f column
  rw [found, ← values .baseline, ← values .current]
  rfl

/-- A row shows at a cell what the answers to the cell's queries say: of the last row that carries
the dimension value the values in turn, and zero for what is lacking. -/
structure Shows (r : Request) (topK : Nat) (functions : List MetricFunction) (windows : Windows)
    (answers : Answers) (cell : Cell) (row : Row) : Prop extends Row.At windows cell row where
  raw : ∃ answer : Window → Answer,
    (∀ window, answers.get? (r.cellQuery topK functions (row.baseline, row.current) cell window) =
      some (answer window)) ∧
    row.Reads functions fun window i _ =>
      (((answer window).lastRow? cell.value?).bind (·.metrics[i]?)).getD 0.0

end Row

namespace PairedIndex

theorem metricNames_row (w : PairedIndex) (functions : List MetricFunction) (key : Key)
    (pair : Interval × Interval) :
    (w.row functions key pair).metricNames = functions.map (·.metric) := by
  conv_rhs => rw [← List.zipIdx_map_fst 0 functions, List.map_map]
  exact List.map_map

theorem row_metrics (w : PairedIndex) (functions : List MetricFunction) (key : Key)
    (pair : Interval × Interval) {i : Nat} {f : MetricFunction} (found : functions[i]? = some f) :
    (w.row functions key pair).metrics[i]? =
      some ⟨f.metric, w.valueAt .baseline key i, w.valueAt .current key i⟩ := by
  simp [row, List.getElem?_zipIdx, found]

theorem valueAt_eq (w : PairedIndex) (window : Window) (key : Key) (i : Nat) :
    w.valueAt window key i = ((w.get? window key).bind (·.metrics[i]?)).getD 0.0 := by
  unfold valueAt
  cases w.get? window key <;> rfl

end PairedIndex

def Evaluator.naming : Evaluator where
  references name := .ok [name]
  evaluate name values := .ok ((values name).getD 0.0)

def Duration.second : Duration :=
  .ofSecs 1

def Request.orderTotals (groupBy : List String) : Request where
  collection := "orders"
  metrics := [.raw "total"]
  groupBy := groupBy
  baseline := ⟨.ofMillis 0, .ofMillis 10, by decide⟩
  current := ⟨.ofMillis 10, .ofMillis 20, by decide⟩
  granularity := none
  filters := .empty

def bucketTotals (buckets : List Nat) : List Query :=
  buckets.map fun bucket => (Request.orderTotals []).totalQuery [] bucket .baseline

namespace Service

variable {σ : Type} {s : Service σ} {w : World σ} {r : Request} {functions : List MetricFunction}
  {windows : Windows} {queries : List Query} {rows : List Row}

/-- A comparison that takes up the answers to its batch in some order of its own. -/
def compareBy (order : Answers → List (Query × Answer)) (s : Service σ) (w : World σ)
    (r : Request) : Checked Comparison × World σ :=
  match s.bucketPlan r with
  | .error e => (.error e, w)
  | .ok (functions, windows, queries) =>
    let (answers, w) := w.runInTurn s.backend s.timeout queries
    (do
      let answers ← answers
      return ⟨← s.assemble r.layout r windows functions (order answers)⟩, w)

theorem compareBy_entries : s.compareBy Table.entries w r = s.compare w r := rfl

theorem bucketPlan_eq_ok :
    s.bucketPlan r = .ok (functions, windows, queries) ↔
      s.evaluator.columns r.metrics = .ok functions ∧ r.windows = .ok windows ∧
        r.bucketQueries s.topK functions windows = .ok queries := by
  simp only [bucketPlan, Checked.bind_eq_ok, Checked.pure_eq_ok, Prod.mk.injEq]
  constructor
  · intro steps
    obtain ⟨_, columns, _, cut, _, planned, rfl, rfl, rfl⟩ := steps
    exact ⟨columns, cut, planned⟩
  · intro steps
    obtain ⟨columns, cut, planned⟩ := steps
    exact ⟨_, columns, _, cut, _, planned, rfl, rfl, rfl⟩

theorem compareBy_eq_ok {order : Answers → List (Query × Answer)} {c : Comparison} :
    (s.compareBy order w r).1 = .ok c ↔ ∃ functions windows queries answers,
      s.bucketPlan r = .ok (functions, windows, queries) ∧
        (w.runInTurn s.backend s.timeout queries).1 = .ok answers ∧
          s.assemble r.layout r windows functions (order answers) = .ok c.rows := by
  unfold compareBy
  cases planned : s.bucketPlan r with
  | error e => simp
  | ok plan =>
    obtain ⟨functions, windows, queries⟩ := plan
    simp only [Checked.bind_eq_ok, Checked.pure_eq_ok]
    constructor
    · intro steps
      obtain ⟨answers, answered, rows, assembled, rfl⟩ := steps
      exact ⟨functions, windows, queries, answers, rfl, answered, assembled⟩
    · intro steps
      obtain ⟨_, _, _, answers, same, answered, assembled⟩ := steps
      simp only [Except.ok.injEq, Prod.mk.injEq] at same
      obtain ⟨rfl, rfl, rfl⟩ := same
      exact ⟨answers, answered, c.rows, assembled, rfl⟩

theorem assemble_eq_mapM (layout : Layout) (answers : List (Query × Answer)) :
    s.assemble layout r windows functions answers =
      ((PairedIndex.ofAnswers layout answers).join layout windows functions r.groupBy).mapM
        (s.evaluator.complete r.metrics functions) := by
  rw [← Evaluator.ofPartial_addDerived, assemble]
  rcases s.evaluator.addDerived r.metrics functions
    ((PairedIndex.ofAnswers layout answers).join layout windows functions r.groupBy) with
    ⟨_, _ | e⟩ <;> rfl

theorem forall₂_assemble {layout : Layout} {answers : List (Query × Answer)}
    (assembled : s.assemble layout r windows functions answers = .ok rows) :
    List.Forall₂ (fun raw row => row.Extends raw)
      ((PairedIndex.ofAnswers layout answers).join layout windows functions r.groupBy) rows := by
  rw [assemble_eq_mapM, Checked.mapM_eq_ok] at assembled
  exact assembled.imp fun _ _ => Evaluator.extends_of_complete

theorem assemble_of_raw {layout : Layout} {answers : List (Query × Answer)}
    (raw : Evaluator.derived functions r.metrics = []) :
    s.assemble layout r windows functions answers =
      .ok ((PairedIndex.ofAnswers layout answers).join layout windows functions r.groupBy) := by
  simp [assemble, Evaluator.addDerived, raw]

theorem exists_compareBy_of_raw {order : Answers → List (Query × Answer)} {answers : Answers}
    (planned : s.bucketPlan r = .ok (functions, windows, queries))
    (ran : (w.runInTurn s.backend s.timeout queries).1 = .ok answers)
    (raw : Evaluator.derived functions r.metrics = []) :
    ∃ c, (s.compareBy order w r).1 = .ok c :=
  ⟨⟨_⟩, compareBy_eq_ok.2 ⟨functions, windows, queries, answers, planned, ran, assemble_of_raw raw⟩⟩

theorem answered_of_run {answers : Answers}
    (planned : s.bucketPlan r = .ok (functions, windows, queries))
    (ran : (w.runInTurn s.backend s.timeout queries).1 = .ok answers)
    {order : List (Query × Answer)} (perm : order.Perm answers.entries) :
    r.Answered s.topK functions windows answers order := by
  obtain ⟨-, cut, batch⟩ := bucketPlan_eq_ok.1 planned
  obtain ⟨pairs, rfl, rfl⟩ := World.keys_of_runInTurn ran
  exact ⟨cut, ⟨_, batch, Table.mem_keys_ofList pairs⟩, Table.nodup_keys_ofList pairs, perm⟩

theorem entries_perm_of_runs {τ : Type} {backend : Backend τ} {timeout : Duration} {v : World τ}
    {answers others : Answers} (ran : (w.runInTurn s.backend s.timeout queries).1 = .ok answers)
    (ranToo : (v.runInTurn backend timeout queries).1 = .ok others)
    (same : ∀ q ∈ queries, others.get? q = answers.get? q) :
    answers.entries.Perm others.entries := by
  obtain ⟨pairs, rfl, rfl⟩ := World.keys_of_runInTurn ran
  obtain ⟨otherPairs, rfl, sameKeys⟩ := World.keys_of_runInTurn ranToo
  apply Table.entries_perm (Table.nodup_keys_ofList _) (Table.nodup_keys_ofList _)
  intro q
  by_cases asked : q ∈ pairs.map (·.1)
  · exact (same q asked).symm
  · rw [Table.get?_ofList_eq_none asked, Table.get?_ofList_eq_none (sameKeys ▸ asked)]

section Assembled

variable {answers : Answers} {order : List (Query × Answer)}

theorem forall₂_cells (answered : r.Answered s.topK functions windows answers order)
    (assembled : s.assemble r.layout r windows functions order = .ok rows) :
    List.Forall₂
      (fun cell row => cell ∈ r.cells order windows.size ∧
        ∃ pair, windows.pair? cell.bucket = some pair ∧
          row.Extends ((PairedIndex.ofAnswers r.layout order).row functions
            (r.layout.keyOf cell) pair))
      (r.cells order windows.size) rows := by
  have joined := (PairedIndex.ofAnswers r.layout order).forall₂_join r.layout windows functions
    r.groupBy (Request.windows_aligned answered.cut) (Request.windows_size_pos answered.cut)
  refine forall₂_mem ((forall₂_comp joined (forall₂_assemble assembled)).imp ?_)
  intro cell row made
  obtain ⟨_, ⟨pair, found, rfl⟩, extended⟩ := made
  exact ⟨pair, found, extended⟩

theorem at_of_extends {index : PairedIndex} {cell : Cell} {pair : Interval × Interval} {row : Row}
    (found : windows.pair? cell.bucket = some pair)
    (extended : row.Extends (index.row functions (r.layout.keyOf cell) pair)) :
    Row.At windows cell row where
  intervals := by rw [found, extended.baseline, extended.current]; rfl
  dimension := by rw [extended.dimension]; rfl

theorem forall₂_at (answered : r.Answered s.topK functions windows answers order)
    (assembled : s.assemble r.layout r windows functions order = .ok rows) :
    List.Forall₂ (Row.At windows) (r.cells order windows.size) rows := by
  apply (forall₂_cells answered assembled).imp
  intro cell row made
  obtain ⟨-, pair, found, extended⟩ := made
  exact at_of_extends found extended

theorem forall₂_shows (answered : r.Answered s.topK functions windows answers order)
    (own : OwnBuckets order)
    (assembled : s.assemble r.layout r windows functions order = .ok rows) :
    List.Forall₂ (Row.Shows r s.topK functions windows answers) (r.cells order windows.size)
      rows := by
  apply (forall₂_cells answered assembled).imp
  intro cell row made
  obtain ⟨member, pair, found, extended⟩ := made
  have declared := answered.declared_of_mem_cells member
  refine { at_of_extends found extended with raw := ?_ }
  choose answer answeredBy using fun window => answered.exists_answer found declared window
  have intervals : (row.baseline, row.current) = pair := by
    rw [extended.baseline, extended.current]
    rfl
  refine ⟨answer, fun window => intervals ▸ answeredBy window, fun i f column => ?_⟩
  refine ⟨_, extended.metric (PairedIndex.row_metrics _ functions _ pair column), rfl, ?_⟩
  intro window
  have shown : (PairedIndex.ofAnswers r.layout order).valueAt window (r.layout.keyOf cell) i =
      (((answer window).lastRow? cell.value?).bind (·.metrics[i]?)).getD 0.0 := by
    rw [PairedIndex.valueAt_eq, answered.get?_keyOf own found declared window, answeredBy,
      Option.bind_some]
  cases window <;> exact shown

end Assembled

variable {order : Answers → List (Query × Answer)} {c : Comparison}

theorem compareBy_rows (orders : ∀ answers, (order answers).Perm answers.entries)
    (succeeded : (s.compareBy order w r).1 = .ok c) :
    ∃ functions windows queries answers cells,
      s.bucketPlan r = .ok (functions, windows, queries) ∧
      (w.runInTurn s.backend s.timeout queries).1 = .ok answers ∧
      r.Covers answers.entries windows.size cells ∧ cells.Nodup ∧
      List.Forall₂ (Row.At windows) cells c.rows ∧
      Set.Finite {d | Seen answers.entries d} ∧
      c.rows.length = if r.isGrouped then windows.size * Set.ncard {d | Seen answers.entries d}
        else windows.size := by
  obtain ⟨functions, windows, queries, answers, planned, ran, assembled⟩ :=
    compareBy_eq_ok.1 succeeded
  have answered := answered_of_run planned ran (orders answers)
  have rows := forall₂_at answered assembled
  refine ⟨functions, windows, queries, answers, _, planned, ran, answered.covers,
    Cell.nodup_of_before answered.pairwise_cells, rows, ?_, ?_⟩
  · exact answered.finite_seen
  · rw [← rows.length_eq, answered.length_cells]

def reporting (rows : List AnswerRow) : Service Unit where
  backend := .pure fun q => ⟨some 0, .ok ⟨q.functions, q.groupBy.toList, rows⟩⟩
  evaluator := .naming
  timeout := .second
  topK := 1

theorem compareBy_reporting (rows : List AnswerRow) : ∃ c,
    ((reporting rows).compareBy Table.entries ⟨(), none, []⟩
      (.orderTotals ["country", "city", "country"])).1 = .ok c :=
  exists_compareBy_of_raw rfl rfl rfl

theorem compareBy_rows_reporting : ∃ c,
    ((reporting [⟨none, ["DE"], [1.0]⟩, ⟨some 7, ["AT"], []⟩, ⟨none, [], []⟩]).compareBy
      Table.entries ⟨(), none, []⟩ (.orderTotals ["country", "city", "country"])).1 = .ok c ∧
    (∃ row ∈ c.rows, row.dimension = some ⟨"city", "AT"⟩) ∧
    ∃ windows cells, cells.Nodup ∧ List.Forall₂ (Row.At windows) cells c.rows := by
  obtain ⟨c, succeeded⟩ := compareBy_reporting
    [⟨none, ["DE"], [1.0]⟩, ⟨some 7, ["AT"], []⟩, ⟨none, [], []⟩]
  obtain ⟨_, _, _, _, cells, planned, ran, covers, nodup, rows, -⟩ :=
    compareBy_rows (fun _ => .refl _) succeeded
  cases planned
  cases ran
  have inCells : ⟨some ⟨"city", "AT"⟩, 0⟩ ∈ cells := by
    refine (covers.grouped rfl _).2 ⟨⟨_, ⟨_, .tail _ (.tail _ (.head _)), rfl, ?_⟩, rfl⟩, by decide⟩
    exact ⟨_, .tail _ (.head _), rfl⟩
  obtain ⟨row, inRows, here⟩ := exists_of_forall₂ rows inCells
  exact ⟨c, succeeded, ⟨row, inRows, here.dimension⟩, _, cells, nodup, rows⟩

/-- Where no answer has a row for a foreign bucket, each row shows what the answers to its own two
queries say, in whatever order they are taken up. -/
theorem compareBy_joins (orders : ∀ answers, (order answers).Perm answers.entries)
    (succeeded : (s.compareBy order w r).1 = .ok c) :
    ∃ functions windows queries answers,
      s.bucketPlan r = .ok (functions, windows, queries) ∧
      (w.runInTurn s.backend s.timeout queries).1 = .ok answers ∧
      (OwnBuckets answers.entries →
        (∃ cells, r.Covers answers.entries windows.size cells ∧
          List.Forall₂ (Row.Shows r s.topK functions windows answers) cells c.rows) ∧
        ∀ (τ : Type) (backend : Backend τ) (timeout : Duration) (v : World τ) (others : Answers)
          (reorder : Answers → List (Query × Answer)),
          (v.runInTurn backend timeout queries).1 = .ok others →
          (∀ q ∈ queries, others.get? q = answers.get? q) →
          (∀ answers, (reorder answers).Perm answers.entries) →
          ((Service.mk backend s.evaluator timeout s.topK).compareBy reorder v r).1 = .ok c) := by
  obtain ⟨functions, windows, queries, answers, planned, ran, assembled⟩ :=
    compareBy_eq_ok.1 succeeded
  have answered := answered_of_run planned ran (orders answers)
  refine ⟨functions, windows, queries, answers, planned, ran, fun own => ?_⟩
  have ownOrder : OwnBuckets (order answers) := fun pair member =>
    own pair (answered.perm.mem_iff.1 member)
  refine ⟨⟨_, answered.covers, forall₂_shows answered ownOrder assembled⟩, ?_⟩
  intro τ backend timeout v others reorder ranToo same reorders
  have plannedToo : (Service.mk backend s.evaluator timeout s.topK).bucketPlan r =
      .ok (functions, windows, queries) := planned
  refine compareBy_eq_ok.2 ⟨functions, windows, queries, others, plannedToo, ranToo, ?_⟩
  have reordered : r.Answered s.topK functions windows answers (reorder others) :=
    { answered with perm := (reorders others).trans (entries_perm_of_runs ran ranToo same).symm }
  rw [← assembled]
  unfold assemble
  rw [answered.join_congr reordered ownOrder]

theorem ownBuckets_reporting {rows : List AnswerRow} (unstamped : ∀ row ∈ rows, row.bucket = none)
    {answers : Answers} (ran : (World.runInTurn (reporting rows).backend (reporting rows).timeout
      ⟨(), none, []⟩ queries).1 = .ok answers) : OwnBuckets answers.entries := by
  have reached : World.Reached (reporting rows).backend ⟨(), none, []⟩ := ⟨[], .fresh _ fun _ => rfl⟩
  obtain rfl := reached.truthful.runInTurn (fun q => rfl) ran
  exact ownBuckets_of_unstamped queries fun _ => unstamped

theorem compareBy_joins_reporting : ∃ c,
    ((reporting [⟨none, ["DE"], [1.0]⟩, ⟨none, ["DE"], []⟩, ⟨none, [], []⟩]).compareBy
      Table.entries ⟨(), none, []⟩ (.orderTotals ["country", "city", "country"])).1 = .ok c ∧
    (∃ row ∈ c.rows, row.dimension = some ⟨"city", "DE"⟩ ∧
      row.metrics[0]? = some ⟨"total", 0.0, 0.0⟩) ∧
    ∃ functions windows answers cells, OwnBuckets answers.entries ∧
      List.Forall₂
        (Row.Shows (.orderTotals ["country", "city", "country"]) 1 functions windows answers)
        cells c.rows := by
  obtain ⟨c, succeeded⟩ := compareBy_reporting
    [⟨none, ["DE"], [1.0]⟩, ⟨none, ["DE"], []⟩, ⟨none, [], []⟩]
  obtain ⟨_, _, _, _, planned, ran, joins⟩ := compareBy_joins (fun _ => .refl _) succeeded
  have own := ownBuckets_reporting (by simp) ran
  obtain ⟨⟨cells, covers, shows⟩, -⟩ := joins own
  cases planned
  cases ran
  have inCells : ⟨some ⟨"city", "DE"⟩, 0⟩ ∈ cells := by
    refine (covers.grouped rfl _).2 ⟨⟨_, ⟨_, .tail _ (.tail _ (.head _)), rfl, ?_⟩, rfl⟩, by decide⟩
    exact ⟨_, .head _, rfl⟩
  obtain ⟨row, inRows, shown⟩ := exists_of_forall₂ shows inCells
  obtain ⟨answer, answered, reads⟩ := shown.raw
  rw [← Option.some.inj shown.intervals] at answered
  have same (window : Window) : (answer window).rows =
      [⟨none, ["DE"], [1.0]⟩, ⟨none, ["DE"], []⟩, ⟨none, [], []⟩] := by
    cases window
    · exact congrArg Answer.rows (Option.some.inj ((answered .baseline).symm.trans rfl))
    · exact congrArg Answer.rows (Option.some.inj ((answered .current).symm.trans rfl))
  refine ⟨c, succeeded, ⟨row, inRows, shown.dimension, ?_⟩, _, _, _, cells, own, shows⟩
  rw [reads.getElem?_metrics rfl, Answer.lastRow?, Answer.lastRow?, same, same]
  rfl

end Service

end PeriodCompare
