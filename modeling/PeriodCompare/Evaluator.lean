import PeriodCompare.Expr.Eval
import PeriodCompare.Expr.Grammar
import PeriodCompare.Request
import PeriodCompare.Table

set_option autoImplicit false

namespace PeriodCompare

open PeriodCompare.Expr (Values)

structure Evaluator where
  references : String → Checked (List String)
  evaluate : String → Values → Checked Float

namespace Evaluator

def parsedBy (parse? : String → Option Expr.Tree) (source : String) : Checked Expr.Tree :=
  match parse? source with
  | some t => .ok t
  | none => .error (.expression (.unreadable source))

def parsed : String → Checked Expr.Tree :=
  parsedBy Expr.Tree.parse?

/-- Expressions are read as trees, in whatever grammar. -/
def reading (parse : String → Checked Expr.Tree) : Evaluator where
  references source := do (← parse source).names
  evaluate source values := do (← parse source).eval values

def arithmetic : Evaluator := reading parsed

end Evaluator

structure Entry where
  references : List String
  value : Values → Checked Float

-- The sum, from zero on, of the values of some names; an unknown name counts as one.
def sumOf (names : List String) (values : Values) : Float :=
  names.foldl (fun total name => total + (values name).getD 1.0) 0.0

def Evaluator.ofTable (table : Table String Entry) : Evaluator where
  references source :=
    match table.get? source with
    | some entry => .ok entry.references
    | none => .error (.expression (.unreadable source))
  evaluate source values :=
    match table.get? source with
    | some entry => entry.value values
    | none => .error (.expression (.unreadable source))

def Evaluator.columns (v : Evaluator) (metrics : List MetricExpression) :
    Checked (List MetricFunction) := do
  let perMetric ← metrics.mapM fun m => v.references m.expression
  return (distinct perMetric.flatten).map .sum

end PeriodCompare
