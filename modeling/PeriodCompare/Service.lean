import PeriodCompare.Derivation
import PeriodCompare.Dispatch.World
import PeriodCompare.Join
import PeriodCompare.Query

set_option autoImplicit false

namespace PeriodCompare

structure Service (σ : Type) where
  backend : Backend σ
  evaluator : Evaluator
  timeout : Duration
  topK : Nat

namespace Service

variable {σ : Type}

/-- Joins the answers, in any order, and adds the derived metrics. -/
def assemble (s : Service σ) (layout : Layout) (r : Request) (windows : Windows)
    (functions : List MetricFunction) (answers : List (Query × Answer)) : Checked (List Row) :=
  let rows := (PairedIndex.ofAnswers layout answers).join layout windows functions r.groupBy
  match s.evaluator.addDerived r.metrics functions rows with
  | (rows, none) => .ok rows
  | (_, some e) => .error e

def bucketPlan (s : Service σ) (r : Request) :
    Checked (List MetricFunction × Windows × List Query) := do
  let functions ← s.evaluator.columns r.metrics
  let windows ← r.windows
  let queries ← r.bucketQueries s.topK functions windows
  return (functions, windows, queries)

def totalPlan (s : Service σ) (r : Request) : Checked (List MetricFunction × List Query) := do
  let functions ← s.evaluator.columns r.metrics
  let queries ← r.totalQueries functions 0
  return (functions, queries)

def breakdownPlan (s : Service σ) (r : Request) :
    Checked (List MetricFunction × List Query) := do
  if r.isGrouped then
    let functions ← s.evaluator.columns r.metrics
    let queries ← r.groupQueries s.topK functions 0
    return (functions, queries)
  else .error (.invalidRequest .noGroupBy)

def compare (s : Service σ) (w : World σ) (r : Request) : Checked Comparison × World σ :=
  match s.bucketPlan r with
  | .error e => (.error e, w)
  | .ok (functions, windows, queries) =>
    let (answers, w) := w.runInTurn s.backend s.timeout queries
    (do
      let answers ← answers
      return ⟨← s.assemble r.layout r windows functions answers.entries⟩, w)

/-- One row over both windows as a whole; granularity and grouping do not count. -/
def compareTotals (s : Service σ) (w : World σ) (r : Request) : Checked Row × World σ :=
  match s.totalPlan r with
  | .error e => (.error e, w)
  | .ok (functions, queries) =>
    let (answers, w) := w.runTogether s.backend s.timeout queries
    (do
      let answers ← answers
      let rows ← s.assemble .tabular r r.wholeWindows functions answers.entries
      match rows with
      | row :: _ => .ok row
      | [] => .error (.backend .noRow), w)

/-- One row for each dimension value over both windows as a whole. -/
def breakdown (s : Service σ) (w : World σ) (r : Request) : Checked (List Row) × World σ :=
  match s.breakdownPlan r with
  | .error e => (.error e, w)
  | .ok (functions, queries) =>
    let (answers, w) := w.runTogether s.backend s.timeout queries
    (do
      let answers ← answers
      s.assemble .heatmap r r.wholeWindows functions answers.entries, w)

end Service

end PeriodCompare
