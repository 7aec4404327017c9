import PeriodCompare.Request
import PeriodCompare.Row

set_option autoImplicit false

namespace PeriodCompare

structure Query where
  collection : String
  functions : List MetricFunction
  filters : Filters
  start : Instant
  finish : Instant
  groupBy : Option String
  topK : Option Nat
  window : Window
  bucket : Nat
  deriving DecidableEq

def Query.text (q : Query) : String :=
  q.collection ++ " " ++ q.window.text ++ " bucket " ++ toString q.bucket ++
    " [" ++ q.start.text ++ ", " ++ q.finish.text ++ ")" ++
    (match q.groupBy with
      | some dimension => " group by " ++ dimension
      | none => "")

structure AnswerRow where
  bucket : Option Nat
  dimensions : List String
  metrics : List Float

def AnswerRow.metricAt (r : AnswerRow) (i : Nat) : Float :=
  r.metrics[i]?.getD 0.0

structure Answer where
  functions : List MetricFunction
  columns : List String
  rows : List AnswerRow

def Answer.empty : Answer := ⟨[], [], []⟩

def otherLabel : String := "OTHER"

namespace Request

def interval (r : Request) : Window → Interval
  | .baseline => r.baseline
  | .current => r.current

def totalQuery (r : Request) (functions : List MetricFunction) (bucket : Nat) (window : Window) :
    Query where
  collection := r.collection
  functions := functions
  filters := r.filters
  start := (r.interval window).start
  finish := (r.interval window).finish
  groupBy := none
  topK := none
  window := window
  bucket := bucket

def groupQuery (r : Request) (topK : Nat) (functions : List MetricFunction) (bucket : Nat)
    (dimension : String) (window : Window) : Query :=
  { r.totalQuery functions bucket window with groupBy := some dimension, topK := some topK }

def needMetrics (r : Request) (functions : List MetricFunction) : Checked Unit :=
  if r.metrics.isEmpty || functions.isEmpty then
    .error (.invalidRequest (.noMetrics r.collection))
  else .ok ()

def totalQueries (r : Request) (functions : List MetricFunction) (bucket : Nat) :
    Checked (List Query) := do
  r.needMetrics functions
  return Window.all.map (r.totalQuery functions bucket)

/-- Each dimension is asked for on its own; dimensions are never crossed. -/
def groupQueries (r : Request) (topK : Nat) (functions : List MetricFunction) (bucket : Nat) :
    Checked (List Query) := do
  r.needMetrics functions
  return r.groupBy.flatMap fun dimension =>
    Window.all.map (r.groupQuery topK functions bucket dimension)

def queries (r : Request) (topK : Nat) (functions : List MetricFunction) (bucket : Nat) :
    Checked (List Query) :=
  if r.isGrouped then r.groupQueries topK functions bucket
  else r.totalQueries functions bucket

def bucketQueries (r : Request) (topK : Nat) (functions : List MetricFunction)
    (windows : Windows) : Checked (List Query) := do
  let perBucket ← (windows.baseline.zip windows.current).zipIdx.mapM fun (pair, bucket) =>
    (r.withWindows pair.1 pair.2).queries topK functions bucket
  return perBucket.flatten

end Request

end PeriodCompare
