import PeriodCompare.Distinct
import PeriodCompare.Time.Instant

set_option autoImplicit false

namespace PeriodCompare

inductive Window where
  | baseline
  | current
  deriving DecidableEq

namespace Window

def all : List Window := [.baseline, .current]

def text : Window → String
  | .baseline => "baseline"
  | .current => "current"

def other : Window → Window
  | .baseline => .current
  | .current => .baseline

@[simp] theorem other_other (w : Window) : w.other.other = w := by
  cases w <;> rfl

end Window

structure Dimension where
  name : String
  value : String
  deriving DecidableEq

def Dimension.le (a b : Dimension) : Bool :=
  decide (a.name < b.name ∨ a.name = b.name ∧ a.value ≤ b.value)

structure Metric where
  name : String
  baseline : Float
  current : Float

def Metric.value (m : Metric) : Window → Float
  | .baseline => m.baseline
  | .current => m.current

structure Row where
  baseline : Interval
  current : Interval
  dimension : Option Dimension
  metrics : List Metric

namespace Row

def dimensionName (r : Row) : Option String :=
  r.dimension.map (·.name)

def dimensionValue (r : Row) : Option String :=
  r.dimension.map (·.value)

def metric? (r : Row) (name : String) : Option Metric :=
  r.metrics.find? (·.name = name)

def metricNames (r : Row) : List String :=
  r.metrics.map (·.name)

end Row

structure Comparison where
  rows : List Row

namespace Comparison

def size (c : Comparison) : Nat :=
  c.rows.length

def row? (c : Comparison) (i : Nat) : Option Row :=
  c.rows[i]?

-- All rows of an answer share the names on the first one.
def metricNames (c : Comparison) : List String :=
  (c.rows.head?.map Row.metricNames).getD []

def dimensionNames (c : Comparison) : List String :=
  distinct (c.rows.filterMap Row.dimensionName)

end Comparison

end PeriodCompare
