import PeriodCompare.Query
import PeriodCompare.Table

set_option autoImplicit false

namespace PeriodCompare

inductive Layout where
  | tabular
  | contributor
  | heatmap
  deriving DecidableEq

namespace Layout

def of (byTime grouped : Bool) : Layout :=
  match byTime, grouped with
  | _, false => .tabular
  | true, true => .contributor
  | false, true => .heatmap

def keysBucket : Layout → Bool
  | .tabular | .contributor => true
  | .heatmap => false

def keysDimension : Layout → Bool
  | .tabular => false
  | .contributor | .heatmap => true

end Layout

def Request.layout (r : Request) : Layout :=
  .of r.granularity.isSome r.isGrouped

structure Key where
  bucket : Option Nat
  dimension : Option Dimension
  deriving DecidableEq

-- Nothing comes before something.
def optionLe {α : Type} (le : α → α → Bool) : Option α → Option α → Bool
  | none, _ => true
  | some _, none => false
  | some a, some b => le a b

def Key.le (a b : Key) : Bool :=
  if a.bucket = b.bucket then optionLe Dimension.le a.dimension b.dimension
  else optionLe Nat.ble a.bucket b.bucket

-- A query that is not grouped takes its dimension from the answer.
def Answer.dimensionName? (a : Answer) (q : Query) : Option String :=
  q.groupBy.or a.columns.getLast?

def Answer.dimension? (a : Answer) (q : Query) (row : AnswerRow) : Option Dimension := do
  let name ← a.dimensionName? q
  let value ← row.dimensions.head?
  return ⟨name, value⟩

-- A row that lacks the dimension that the layout keys by has no key.
def Layout.key? (layout : Layout) (q : Query) (a : Answer) (row : AnswerRow) : Option Key :=
  let bucket := if layout.keysBucket then some (row.bucket.getD q.bucket) else none
  if layout.keysDimension then (a.dimension? q row).map fun d => ⟨bucket, some d⟩
  else some ⟨bucket, none⟩

def Layout.keyed (layout : Layout) (q : Query) (a : Answer) : List (Key × AnswerRow) :=
  a.rows.filterMap fun row => (layout.key? q a row).map fun key => (key, row)

abbrev Index := Table Key AnswerRow

def Index.add (layout : Layout) (index : Index) (q : Query) (a : Answer) : Index :=
  index.insertAll (layout.keyed q a)

def Index.sorted (index : Index) : List (Key × AnswerRow) :=
  index.entries.mergeSort fun a b => a.1.le b.1

def Index.dimensions (index : Index) : List Dimension :=
  index.keys.filterMap (·.dimension)

structure PairedIndex where
  baseline : Index
  current : Index

namespace PairedIndex

def empty : PairedIndex := ⟨.empty, .empty⟩

def side (w : PairedIndex) : Window → Index
  | .baseline => w.baseline
  | .current => w.current

def add (layout : Layout) (w : PairedIndex) (q : Query) (a : Answer) : PairedIndex :=
  match q.window with
  | .baseline => { w with baseline := Index.add layout w.baseline q a }
  | .current => { w with current := Index.add layout w.current q a }

def ofAnswers (layout : Layout) (answers : List (Query × Answer)) : PairedIndex :=
  answers.foldl (fun w pair => w.add layout pair.1 pair.2) empty

def get? (w : PairedIndex) (window : Window) (key : Key) : Option AnswerRow :=
  (w.side window).get? key

def dimensions (w : PairedIndex) : List Dimension :=
  (distinct (w.baseline.dimensions ++ w.current.dimensions)).mergeSort Dimension.le

end PairedIndex

-- Undeclared names come after all declared ones.
def declaredRank (groupBy : List String) (name : String) : Nat :=
  groupBy.idxOf name

def Dimension.declaredLe (groupBy : List String) (a b : Dimension) : Bool :=
  let i := declaredRank groupBy a.name
  let j := declaredRank groupBy b.name
  decide (i < j) || (i == j && a.le b)

namespace PairedIndex

def orderedDimensions (w : PairedIndex) (groupBy : List String) : List Dimension :=
  w.dimensions.mergeSort (Dimension.declaredLe groupBy)

def valueAt (w : PairedIndex) (window : Window) (key : Key) (i : Nat) : Float :=
  ((w.get? window key).map (·.metricAt i)).getD 0.0

def row (w : PairedIndex) (functions : List MetricFunction) (key : Key)
    (intervals : Interval × Interval) : Row where
  baseline := intervals.1
  current := intervals.2
  dimension := key.dimension
  metrics := functions.zipIdx.map fun (f, i) =>
    ⟨f.metric, w.valueAt .baseline key i, w.valueAt .current key i⟩

def outputKeys (w : PairedIndex) (layout : Layout) (windows : Windows) (groupBy : List String) :
    List (Key × Interval × Interval) :=
  match layout with
  | .tabular => windows.pairs.map fun (bucket, pair) => (⟨some bucket, none⟩, pair)
  | .contributor =>
    (w.orderedDimensions groupBy).flatMap fun d =>
      windows.pairs.map fun (bucket, pair) => (⟨some bucket, some d⟩, pair)
  | .heatmap =>
    match windows.pair? 0 with
    | none => []
    | some pair => (w.orderedDimensions groupBy).map fun d => (⟨none, some d⟩, pair)

def join (w : PairedIndex) (layout : Layout) (windows : Windows)
    (functions : List MetricFunction) (groupBy : List String) : List Row :=
  (w.outputKeys layout windows groupBy).map fun (key, pair) => w.row functions key pair

end PairedIndex

end PeriodCompare
