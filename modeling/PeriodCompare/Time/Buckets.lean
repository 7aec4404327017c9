import PeriodCompare.Failure
import PeriodCompare.Time.Instant

set_option autoImplicit false

namespace PeriodCompare

def Instant.earlier (a b : Instant) : Instant :=
  if a ≤ b then a else b

@[simp] theorem Instant.millis_earlier (a b : Instant) :
    (a.earlier b).millis = min a.millis b.millis := by
  simp only [Instant.earlier, Instant.le_def]
  split <;> omega

theorem Instant.lt_shift_of_lt {a b : Instant} {step : Nat} (pos : 0 < step) (h : a < b) :
    a < a.shift step := by
  have low := a.min_le
  have high := b.le_max
  simp only [Instant.lt_def] at h
  simp only [Instant.lt_def, Instant.shift, Instant.millis_ofMillis]
  omega

theorem Instant.lt_earlier_shift {a b : Instant} {step : Nat} (pos : 0 < step) (h : a < b) :
    a < (a.shift step).earlier b := by
  have := Instant.lt_shift_of_lt pos h
  simp only [Instant.lt_def, Instant.millis_earlier] at *
  omega

/-- Buckets of `step` milliseconds from `start` on; the last one ends at `finish`. -/
def cut (step : Nat) (pos : 0 < step) (start finish : Instant) : List Interval :=
  if h : start < finish then
    let next := (start.shift step).earlier finish
    ⟨start, next, Instant.lt_earlier_shift pos h⟩ :: cut step pos next finish
  else []
termination_by (finish.millis - start.millis).toNat
decreasing_by
  have := Instant.lt_earlier_shift pos h
  simp only [Instant.lt_def] at *
  omega

def Interval.create (start finish : Instant) : Checked Interval :=
  if h : start < finish then .ok ⟨start, finish, h⟩ else .error (.invalidRange start finish)

-- The range is checked first, then the granularity.
def bucketsBetween (granularity : Option Granularity) (start finish : Instant) :
    Checked (List Interval) := do
  let whole ← Interval.create start finish
  match granularity with
  | none => .ok [whole]
  | some g =>
    if h : 0 < g.width then .ok (cut g.width h start finish)
    else .error (.invalidRequest (.zeroWidth g))

structure Windows where
  baseline : List Interval
  current : List Interval
  deriving DecidableEq

namespace Windows

def whole (baseline current : Interval) : Windows :=
  ⟨[baseline], [current]⟩

def size (w : Windows) : Nat :=
  w.baseline.length

def pair? (w : Windows) (bucket : Nat) : Option (Interval × Interval) := do
  let baseline ← w.baseline[bucket]?
  let current ← w.current[bucket]?
  return (baseline, current)

def pairs (w : Windows) : List (Nat × Interval × Interval) :=
  (List.range w.size).filterMap fun bucket => (w.pair? bucket).map fun pair => (bucket, pair)

end Windows

end PeriodCompare
