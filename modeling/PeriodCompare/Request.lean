import PeriodCompare.Time.Buckets

set_option autoImplicit false

namespace PeriodCompare

inductive Aggregation where
  | sum
  deriving DecidableEq

def Aggregation.text : Aggregation → String
  | .sum => "SUM"

structure MetricFunction where
  aggregation : Aggregation
  metric : String
  deriving DecidableEq

namespace MetricFunction

def sum (metric : String) : MetricFunction := ⟨.sum, metric⟩

def text (f : MetricFunction) : String :=
  f.aggregation.text ++ "_" ++ f.metric

end MetricFunction

structure MetricExpression where
  name : String
  expression : String
  deriving DecidableEq

def MetricExpression.raw (name : String) : MetricExpression := ⟨name, name⟩

-- In order of the names of the dimensions.
structure Filters where
  entries : List (String × List String)
  deriving DecidableEq

namespace Filters

def empty : Filters := ⟨[]⟩

def acceptIn (dimension : String) (values : List String) :
    List (String × List String) → List (String × List String)
  | [] => [(dimension, values)]
  | (name, accepted) :: rest =>
    if dimension = name then (name, accepted ++ values) :: rest
    else if dimension < name then (dimension, values) :: (name, accepted) :: rest
    else (name, accepted) :: acceptIn dimension values rest

-- Values already accepted for the dimension stay, and repeated ones are kept.
def accept (f : Filters) (dimension : String) (values : List String) : Filters :=
  ⟨acceptIn dimension values f.entries⟩

def ofList (pairs : List (String × List String)) : Filters :=
  pairs.foldl (fun f pair => f.accept pair.1 pair.2) empty

end Filters

structure Request where
  collection : String
  metrics : List MetricExpression
  groupBy : List String
  baseline : Interval
  current : Interval
  granularity : Option Granularity
  filters : Filters
  deriving DecidableEq

namespace Request

def isGrouped (r : Request) : Bool :=
  !r.groupBy.isEmpty

def withWindows (r : Request) (baseline current : Interval) : Request :=
  { r with baseline, current }

def wholeWindows (r : Request) : Windows :=
  .whole r.baseline r.current

def windows (r : Request) : Checked Windows := do
  let baseline ← bucketsBetween r.granularity r.baseline.start r.baseline.finish
  let current ← bucketsBetween r.granularity r.current.start r.current.finish
  if baseline.length = current.length then .ok ⟨baseline, current⟩
  else .error (.invalidRequest (.bucketCounts baseline.length current.length))

end Request

structure Draft where
  collection : String
  metrics : List MetricExpression := []
  groupBy : List String := []
  baseline : Option (Instant × Instant) := none
  current : Option (Instant × Instant) := none
  granularity : Option Granularity := none
  filters : Filters := .empty

namespace Draft

def filter (d : Draft) (dimension value : String) : Draft :=
  { d with filters := d.filters.accept dimension [value] }

-- Missing windows come first, then group-by names, then the order of each window's ends.
def build (d : Draft) : Checked Request :=
  match d.baseline, d.current with
  | none, _ => .error (.invalidRequest .baselineNotSet)
  | some _, none => .error (.invalidRequest .currentNotSet)
  | some baseline, some current =>
    if d.groupBy.any (· = "") then .error (.invalidRequest .unnamedGroupBy)
    else do
      let baseline ← Interval.create baseline.1 baseline.2
      let current ← Interval.create current.1 current.2
      return ⟨d.collection, d.metrics, d.groupBy, baseline, current, d.granularity, d.filters⟩

end Draft

end PeriodCompare
