import PeriodCompare.Dispatch.World
import PeriodCompare.Numeric.Binary

set_option autoImplicit false

namespace PeriodCompare

structure Record where
  time : Instant
  dimensions : Table String String
  metrics : Table String Float

namespace Record

def isMatch (r : Record) (q : Query) : Bool :=
  decide (q.start ≤ r.time ∧ r.time < q.finish) &&
    q.filters.entries.all fun (dimension, accepted) =>
      (r.dimensions.get? dimension).any fun value => accepted.contains value

end Record

-- Negative zero is the sum of nothing.
def total (values : List Float) : Float :=
  values.foldl (· + ·) (-0.0)

def metricNaN (f : Option MetricFunction) (records : List Record) : Numeric.NaN :=
  .ofSum (-0.0) (records.filterMap fun r => f.bind (r.metrics.get? ·.metric))

def totals (functions : List MetricFunction) (records : List Record) : List Float :=
  functions.map fun f => total (records.filterMap (·.metrics.get? f.metric))

structure Group where
  value : String
  totals : List Float

namespace Group

def lead (nan : String → Numeric.NaN) (g : Group) : Int :=
  Numeric.rank (nan g.value) (g.totals.head?.getD 0.0)

def before (nan : String → Numeric.NaN) (a b : Group) : Bool :=
  decide (b.lead nan < a.lead nan ∨ b.lead nan = a.lead nan ∧ a.value ≤ b.value)

end Group

def recordsOf (dimension value : String) (records : List Record) : List Record :=
  records.filter (·.dimensions.get? dimension = some value)

def groups (functions : List MetricFunction) (dimension : String) (records : List Record) :
    List Group :=
  (distinct (records.filterMap (·.dimensions.get? dimension))).map fun value =>
    ⟨value, totals functions (recordsOf dimension value records)⟩

-- A first total that is NaN has the bits of `nan` for the records that it sums up.
def ranked (nan : List Record → Numeric.NaN) (functions : List MetricFunction) (dimension : String)
    (records : List Record) : List Group :=
  (groups functions dimension records).mergeSort
    (Group.before fun value => nan (recordsOf dimension value records))

-- This sum starts at zero, so it is never a negative zero.
def merged (functions : List MetricFunction) (rest : List Group) : List Float :=
  rest.foldl (fun sums g => List.zipWith (· + ·) sums g.totals) (functions.map fun _ => 0.0)

/-- Keeps the `k` first groups and folds those beyond into one more group. -/
def capped (functions : List MetricFunction) (topK : Option Nat) (ranked : List Group) :
    List Group :=
  match topK with
  | none => ranked
  | some k =>
    if k < ranked.length then ranked.take k ++ [⟨otherLabel, merged functions (ranked.drop k)⟩]
    else ranked

def Group.toRow (g : Group) : AnswerRow :=
  ⟨none, [g.value], g.totals⟩

def answerFrom (nan : Option MetricFunction → List Record → Numeric.NaN) (records : List Record)
    (q : Query) : Answer where
  functions := q.functions
  columns := q.groupBy.toList
  rows :=
    let records := records.filter (·.isMatch q)
    match q.groupBy with
    | none => if records.isEmpty then [] else [⟨none, [], totals q.functions records⟩]
    | some dimension =>
      (capped q.functions q.topK
        (ranked (nan q.functions.head?) q.functions dimension records)).map Group.toRow

structure Stall where
  window : Window
  bucket : Option Nat
  deriving DecidableEq

structure Store where
  collections : Table String (List Record)
  -- In nanoseconds.
  latency : Nat
  stalls : List Stall
  -- The sum of a metric over some records of a collection, where it is no number.
  nan : String → Option MetricFunction → List Record → Numeric.NaN

namespace Store

def empty : Store where
  collections := .empty
  latency := 0
  stalls := []
  nan := fun _ => metricNaN

def records (s : Store) (collection : String) : List Record :=
  (s.collections.get? collection).getD []

def addRecords (s : Store) (collection : String) (records : List Record) : Store :=
  { s with collections := s.collections.insert collection (s.records collection ++ records) }

def isStalled (s : Store) (q : Query) : Bool :=
  s.stalls.any fun stall => stall.window = q.window && stall.bucket.all (· == q.bucket)

def course (s : Store) (q : Query) : Course where
  latency := if s.isStalled q then none else some s.latency
  outcome := .ok (answerFrom (s.nan q.collection) (s.records q.collection) q)

def backend (s : Store) : Backend Unit :=
  .pure s.course

end Store

end PeriodCompare
