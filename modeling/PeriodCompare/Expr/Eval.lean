import PeriodCompare.Distinct
import PeriodCompare.Expr.Tree
import PeriodCompare.Failure
import PeriodCompare.Numeric.Binary

set_option autoImplicit false

namespace PeriodCompare.Expr

abbrev Values := String → Option Float

def truth (b : Bool) : Float :=
  if b then 1.0 else 0.0

-- Set operators and `atan2` have no value.
def BinaryOp.value? (op : BinaryOp) (left right : Float) : Option Float :=
  match op with
  | .add => some (left + right)
  | .sub => some (left - right)
  | .mul => some (left * right)
  | .div => some (left / right)
  | .mod => some (Numeric.remainder left right)
  | .pow => some (left.pow right)
  | .eq => some (truth (left == right))
  | .ne => some (truth (left != right))
  | .lt => some (truth (left < right))
  | .gt => some (truth (right < left))
  | .le => some (truth (left ≤ right))
  | .ge => some (truth (right ≤ left))
  | .atan2 | .and | .or | .unless => none

def Selector.name? (s : Selector) : Checked String :=
  match s.name with
  | some name => .ok name
  | none => .error (.expression .unnamedSelector)

namespace Tree

-- Both sides of an operator are evaluated before the operator is looked at.
def eval (values : Values) : Tree → Checked Float
  | .number value => .ok value
  | .selector s => do
    let name ← s.name?
    match values name with
    | some value => .ok value
    | none => .error (.expression (.unknownMetric name))
  | .paren inner => inner.eval values
  | .neg inner => do return -(← inner.eval values)
  | .binary op _ left right => do
    let l ← left.eval values
    let r ← right.eval values
    match op.value? l r with
    | some value => .ok value
    | none => .error (.expression .unsupportedOperator)
  | _ => .error (.expression .unsupportedConstruct)

def references : Tree → Checked (List String)
  | .number _ => .ok []
  | .selector s => do return [← s.name?]
  | .paren inner => inner.references
  | .neg inner => inner.references
  | .binary _ _ left right => do return (← left.references) ++ (← right.references)
  | _ => .error (.expression .unsupportedConstruct)

def names (e : Tree) : Checked (List String) :=
  e.references.map distinct

end Tree

end PeriodCompare.Expr
