import PeriodCompare.Evaluator
import PeriodCompare.Row

set_option autoImplicit false

namespace PeriodCompare

open PeriodCompare.Expr (Values)

-- Of several metrics with one name, the last counts.
def Row.values (r : Row) (window : Window) : Values :=
  fun name => ((r.metrics.filter (·.name = name)).getLast?).map (·.value window)

def finitePart (x : Float) : Float :=
  if x.isFinite then x else 0.0

def mapUntilFailure {α β : Type} (f : α → Checked β) : List α → List β × Option Failure
  | [] => ([], none)
  | a :: rest =>
    match f a with
    | .error e => ([], some e)
    | .ok b =>
      let (results, failure) := mapUntilFailure f rest
      (b :: results, failure)

namespace Evaluator

-- A metric whose name is a column is raw and needs no evaluation.
def derived (functions : List MetricFunction) (metrics : List MetricExpression) :
    List MetricExpression :=
  metrics.filter fun m => !functions.any (·.metric = m.name)

-- The baseline is evaluated first; a value that is not finite becomes zero.
def derive (v : Evaluator) (r : Row) (m : MetricExpression) : Checked Metric := do
  let baseline ← v.evaluate m.expression (r.values .baseline)
  let current ← v.evaluate m.expression (r.values .current)
  return ⟨m.name, finitePart baseline, finitePart current⟩

/-- Derived metrics are added at the end of the row and do not see each other. -/
def extendRow (v : Evaluator) (metrics : List MetricExpression) (r : Row) :
    Row × Option Failure :=
  let (added, failure) := mapUntilFailure (v.derive r) metrics
  ({ r with metrics := r.metrics ++ added }, failure)

-- Rows after the first failure stay as they are.
def extendRows (v : Evaluator) (metrics : List MetricExpression) :
    List Row → List Row × Option Failure
  | [] => ([], none)
  | r :: rest =>
    match v.extendRow metrics r with
    | (extended, some e) => (extended :: rest, some e)
    | (extended, none) =>
      let (rows, failure) := v.extendRows metrics rest
      (extended :: rows, failure)

def addDerived (v : Evaluator) (metrics : List MetricExpression)
    (functions : List MetricFunction) (rows : List Row) : List Row × Option Failure :=
  v.extendRows (derived functions metrics) rows

end Evaluator

end PeriodCompare
