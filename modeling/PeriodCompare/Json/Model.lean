import PeriodCompare.Json.Value
import PeriodCompare.Row
import PeriodCompare.Request

set_option autoImplicit false

namespace PeriodCompare.Json

namespace Value

-- An exact whole number; a zero with a minus is none.
def integer? : Value → Option Int
  | .number n =>
    if n.decimal.fraction.isSome || n.decimal.exponent.isSome then none
    else do
      let m ← Numeric.digits? 10 n.decimal.whole
      if n.negative then (if m = 0 then none else some (-(m : Int))) else some m
  | _ => none

-- The nearest float, unless the number is too large.
def float? : Value → Option Float
  | .number n => do
    let x ← n.decimal.value?
    if x.isInf then none else some (if n.negative then -x else x)
  | _ => none

def string? : Value → Option String
  | .string content => content
  | _ => none

def uint32? (v : Value) : Option UInt32 := do
  let n ← v.integer?
  if 0 ≤ n ∧ n < 4294967296 then some (UInt32.ofNat n.toNat) else none

def instant? (v : Value) : Option Instant := do
  Instant.ofMillis? (← v.integer?)

-- The name of a choice, which may also be the only key of an object, with a null.
def choice? : Value → Option String
  | .string content => content
  | .object [(some name, .null)] => some name
  | _ => none

/-- The fields of a structure. Every one must be there, and only once. -/
def fields? (names : List String) : Value → Option (List Value)
  | .array items => if items.length = names.length then some items else none
  | .object members =>
    if members.all (·.1.isSome) then
      names.mapM fun name =>
        match members.filter (·.1 = some name) with
        | [(_, value)] => some value
        | _ => none
    else none
  | _ => none

end Value

def unit? (v : Value) : Option TimeUnit := do
  TimeUnit.ofText? (← v.choice?)

def granularity? (v : Value) : Option Granularity := do
  match ← v.fields? ["size", "unit"] with
  | [size, unit] => return ⟨← size.uint32?, ← unit? unit⟩
  | _ => none

def window? (v : Value) : Option Window := do
  match ← v.choice? with
  | "Baseline" => some .baseline
  | "Current" => some .current
  | _ => none

def aggregation? (v : Value) : Option Aggregation := do
  match ← v.choice? with
  | "Sum" => some .sum
  | _ => none

def metricFunction? (v : Value) : Option MetricFunction := do
  match ← v.fields? ["function", "metric_name"] with
  | [f, name] => return ⟨← aggregation? f, ← name.string?⟩
  | _ => none

def metricExpression? (v : Value) : Option MetricExpression := do
  match ← v.fields? ["name", "expression"] with
  | [name, expression] => return ⟨← name.string?, ← expression.string?⟩
  | _ => none

def dimension? (v : Value) : Option Dimension := do
  match ← v.fields? ["name", "value"] with
  | [name, value] => return ⟨← name.string?, ← value.string?⟩
  | _ => none

def metric? (v : Value) : Option Metric := do
  match ← v.fields? ["name", "baseline_value", "current_value"] with
  | [name, baseline, current] => return ⟨← name.string?, ← baseline.float?, ← current.float?⟩
  | _ => none

end PeriodCompare.Json
