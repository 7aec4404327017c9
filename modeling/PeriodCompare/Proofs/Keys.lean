import PeriodCompare.Proofs.Comparison

set_option autoImplicit false

namespace PeriodCompare

namespace Dimension

/-- By the first position of the name among the declared ones, where an undeclared name comes after
them all, then by name, then by value. -/
def Precedes (groupBy : List String) (a b : Dimension) : Prop :=
  groupBy.idxOf a.name < groupBy.idxOf b.name ∨
    groupBy.idxOf a.name = groupBy.idxOf b.name ∧
      (a.name < b.name ∨ a.name = b.name ∧ a.value < b.value)

theorem precedes_iff_place {groupBy : List String} {a b : Dimension} :
    a.Precedes groupBy b ↔ a.declaredPlace groupBy < b.declaredPlace groupBy := by
  simp [Precedes, declaredPlace, declaredRank, place, Prod.Lex.toLex_lt_toLex]

end Dimension

namespace Key

def cell (key : Key) : Cell :=
  ⟨key.dimension, key.bucket.getD 0⟩

def Before (groupBy : List String) (a b : Key) : Prop :=
  (∃ d e, a.dimension = some d ∧ b.dimension = some e ∧ d.Precedes groupBy e) ∨
    a.dimension = b.dimension ∧ a.cell.bucket < b.cell.bucket

theorem before_irrefl {groupBy : List String} {key : Key} : ¬ key.Before groupBy key := by
  intro before
  rcases before with ⟨d, e, first, second, before⟩ | ⟨-, before⟩
  · obtain rfl := Option.some.inj (first.symm.trans second)
    exact lt_irrefl _ (Dimension.precedes_iff_place.1 before)
  · exact lt_irrefl _ before

theorem nodup_of_before {groupBy : List String} {keys : List Key}
    (ordered : keys.Pairwise (Before groupBy)) : keys.Nodup := by
  refine List.Pairwise.imp ?_ ordered
  intro a b before same
  exact before_irrefl (same ▸ before)

end Key

inductive Layout.Shapes : Layout → Key → Prop where
  | tabular (bucket : Nat) : Shapes .tabular ⟨some bucket, none⟩
  | contributor (bucket : Nat) (d : Dimension) : Shapes .contributor ⟨some bucket, some d⟩
  | heatmap (d : Dimension) : Shapes .heatmap ⟨none, some d⟩

namespace Windows

variable {windows : Windows}

theorem mem_pairs {bucket : Nat} {pair : Interval × Interval} :
    (bucket, pair) ∈ windows.pairs ↔ windows.pair? bucket = some pair := by
  simp only [pairs, List.mem_filterMap, List.mem_range, Option.map_eq_some_iff, Prod.mk.injEq]
  constructor
  · intro listed
    obtain ⟨_, -, _, found, rfl, rfl⟩ := listed
    exact found
  · intro found
    exact ⟨bucket, lt_size_of_pair? found, pair, found, rfl, rfl⟩

theorem pairwise_pairs : windows.pairs.Pairwise (·.1 < ·.1) := by
  refine List.pairwise_filterMap.2 (List.pairwise_lt_range.imp ?_)
  intro i j before a first b second
  obtain ⟨_, -, rfl⟩ := Option.map_eq_some_iff.1 first
  obtain ⟨_, -, rfl⟩ := Option.map_eq_some_iff.1 second
  exact before

end Windows

def valuesUpTo (n : Nat) (row : Option AnswerRow) : List Float :=
  (List.range n).map fun i => (row.bind (·.metrics[i]?)).getD 0.0

namespace PairedIndex

def Knows (w : PairedIndex) (d : Dimension) : Prop :=
  ∃ window, ∃ key ∈ (w.side window).keys, key.dimension = some d

structure Outputs (w : PairedIndex) (layout : Layout) (windows : Windows) (key : Key) : Prop where
  shape : layout.Shapes key
  paired : (windows.pair? key.cell.bucket).isSome
  known : ∀ d, key.dimension = some d → w.Knows d

structure Joins (w : PairedIndex) (windows : Windows) (functions : List MetricFunction) (key : Key)
    (row : Row) : Prop extends Row.At windows key.cell row where
  names : row.metricNames = functions.map (·.metric)
  values : ∀ window,
    row.metrics.map (·.value window) = valuesUpTo functions.length (w.get? window key)

variable {w : PairedIndex} {layout : Layout} {windows : Windows} {functions : List MetricFunction}
  {groupBy : List String} {key : Key} {pair : Interval × Interval}

theorem mem_orderedDimensions_iff_knows {d : Dimension} :
    d ∈ w.orderedDimensions groupBy ↔ w.Knows d := by
  simp only [mem_orderedDimensions, Index.dimensions, List.mem_filterMap]
  constructor
  · intro either
    rcases either with held | held
    · exact ⟨.baseline, held⟩
    · exact ⟨.current, held⟩
  · intro knows
    obtain ⟨window, held⟩ := knows
    cases window with
    | baseline => exact .inl held
    | current => exact .inr held

theorem precedes_orderedDimensions :
    (w.orderedDimensions groupBy).Pairwise (Dimension.Precedes groupBy) :=
  (w.strict_orderedDimensions groupBy).imp Dimension.precedes_iff_place.2

theorem mem_outputKeys :
    (key, pair) ∈ w.outputKeys layout windows groupBy ↔
      layout.Shapes key ∧ windows.pair? key.cell.bucket = some pair ∧
        ∀ d, key.dimension = some d → w.Knows d := by
  cases layout with
  | tabular =>
    simp only [outputKeys, List.mem_map, Prod.mk.injEq]
    constructor
    · intro output
      obtain ⟨⟨bucket, _⟩, listed, rfl, rfl⟩ := output
      exact ⟨.tabular bucket, Windows.mem_pairs.1 listed, by simp⟩
    · intro output
      obtain ⟨shape, found, -⟩ := output
      cases shape with | tabular bucket =>
      exact ⟨(bucket, pair), Windows.mem_pairs.2 found, rfl, rfl⟩
  | contributor =>
    simp only [outputKeys, List.mem_flatMap, List.mem_map, Prod.mk.injEq,
      mem_orderedDimensions_iff_knows]
    constructor
    · intro output
      obtain ⟨d, known, ⟨bucket, _⟩, listed, rfl, rfl⟩ := output
      exact ⟨.contributor bucket d, Windows.mem_pairs.1 listed, by simpa using known⟩
    · intro output
      obtain ⟨shape, found, known⟩ := output
      cases shape with | contributor bucket d =>
      exact ⟨d, known d rfl, (bucket, pair), Windows.mem_pairs.2 found, rfl, rfl⟩
  | heatmap =>
    simp only [outputKeys]
    cases first : windows.pair? 0 with
    | none =>
      constructor
      · simp
      · intro output
        obtain ⟨shape, found, -⟩ := output
        cases shape with | heatmap d =>
        exact absurd (first.symm.trans found) (by simp)
    | some intervals =>
      simp only [List.mem_map, Prod.mk.injEq, mem_orderedDimensions_iff_knows]
      constructor
      · intro output
        obtain ⟨d, known, rfl, rfl⟩ := output
        exact ⟨.heatmap d, first, by simpa using known⟩
      · intro output
        obtain ⟨shape, found, known⟩ := output
        cases shape with | heatmap d =>
        exact ⟨d, known d rfl, rfl, Option.some.inj (first.symm.trans found)⟩

theorem mem_keys_outputKeys :
    key ∈ (w.outputKeys layout windows groupBy).map (·.1) ↔ w.Outputs layout windows key := by
  constructor
  · intro member
    obtain ⟨⟨_, pair⟩, listed, rfl⟩ := List.mem_map.1 member
    obtain ⟨shape, found, known⟩ := mem_outputKeys.1 listed
    exact ⟨shape, Option.isSome_of_eq_some found, known⟩
  · intro output
    obtain ⟨pair, found⟩ := Option.isSome_iff_exists.1 output.paired
    have listed : (key, pair) ∈ w.outputKeys layout windows groupBy :=
      mem_outputKeys.2 ⟨output.shape, found, output.known⟩
    exact List.mem_map.2 ⟨(key, pair), listed, rfl⟩

theorem pairwise_outputKeys (w : PairedIndex) (layout : Layout) (windows : Windows)
    (groupBy : List String) :
    ((w.outputKeys layout windows groupBy).map (·.1)).Pairwise (Key.Before groupBy) := by
  have byBucket (d : Option Dimension) :
      windows.pairs.Pairwise fun a b => Key.Before groupBy ⟨some a.1, d⟩ ⟨some b.1, d⟩ :=
    Windows.pairwise_pairs.imp fun before => .inr ⟨rfl, before⟩
  cases layout with
  | tabular =>
    simp only [outputKeys, List.map_map, List.pairwise_map]
    exact byBucket none
  | contributor =>
    simp only [outputKeys, List.pairwise_map, List.pairwise_flatMap]
    refine ⟨fun d _ => byBucket (some d), precedes_orderedDimensions.imp ?_⟩
    intro d e before x inX y inY
    obtain ⟨_, -, rfl⟩ := List.mem_map.1 inX
    obtain ⟨_, -, rfl⟩ := List.mem_map.1 inY
    exact .inl ⟨d, e, rfl, rfl, before⟩
  | heatmap =>
    simp only [outputKeys]
    cases windows.pair? 0 with
    | none => exact .nil
    | some _ =>
      simp only [List.map_map, List.pairwise_map]
      exact precedes_orderedDimensions.imp fun before => .inl ⟨_, _, rfl, rfl, before⟩

theorem values_row (window : Window) :
    (w.row functions key pair).metrics.map (·.value window) =
      valuesUpTo functions.length (w.get? window key) := by
  have indices : functions.zipIdx.map (·.2) = List.range functions.length := by
    rw [List.zipIdx_map_snd, List.range_eq_range']
  rw [valuesUpTo, ← indices, row, List.map_map, List.map_map]
  apply List.map_congr_left
  intro _ _
  cases window <;> exact valueAt_eq ..

theorem joins_row (found : windows.pair? key.cell.bucket = some pair) :
    w.Joins windows functions key (w.row functions key pair) where
  intervals := found
  dimension := rfl
  names := w.metricNames_row functions key pair
  values window := values_row window

theorem forall₂_joins (w : PairedIndex) (layout : Layout) (windows : Windows)
    (functions : List MetricFunction) (groupBy : List String) :
    List.Forall₂ (w.Joins windows functions)
      ((w.outputKeys layout windows groupBy).map (·.1))
      (w.join layout windows functions groupBy) := by
  rw [join, List.forall₂_map_left_iff, List.forall₂_map_right_iff, List.forall₂_same]
  intro entry member
  obtain ⟨-, found, -⟩ := mem_outputKeys.1 member
  exact joins_row found

theorem known_of_get? {window : Window} {entry : AnswerRow} {d : Dimension}
    (held : w.get? window key = some entry) (keyed : key.dimension = some d) : w.Knows d :=
  ⟨window, key, (Table.get?_isSome_iff _ key).1 (Option.isSome_of_eq_some held), keyed⟩

theorem join_outcome (w : PairedIndex) (layout : Layout) (windows : Windows)
    (functions : List MetricFunction) (groupBy : List String) :
    let rows := w.join layout windows functions groupBy
    ∃ keys : List Key,
      (∀ key, key ∈ keys ↔ w.Outputs layout windows key) ∧
      keys.Nodup ∧ keys.Pairwise (Key.Before groupBy) ∧
      List.Forall₂ (w.Joins windows functions) keys rows ∧
      ∀ window key entry, w.get? window key = some entry → layout.Shapes key →
        ((windows.pair? key.cell.bucket).isSome ↔
          ∃! i : Nat, ∃ row : Row, keys[i]? = some key ∧ rows[i]? = some row ∧
            row.metrics.map (·.value window) = valuesUpTo functions.length (some entry)) := by
  intro rows
  have nodup := Key.nodup_of_before (w.pairwise_outputKeys layout windows groupBy)
  have joined : List.Forall₂ (w.Joins windows functions) _ rows := w.forall₂_joins ..
  refine ⟨_, fun _ => mem_keys_outputKeys, nodup, w.pairwise_outputKeys .., joined, ?_⟩
  intro window key entry held shape
  constructor
  · intro paired
    have output : w.Outputs layout windows key := ⟨shape, paired, fun d => known_of_get? held⟩
    obtain ⟨i, inside, found⟩ := List.mem_iff_getElem.1 (mem_keys_outputKeys.2 output)
    have foundAt := List.getElem?_eq_some_iff.2 ⟨inside, found⟩
    obtain ⟨row, foundRow, joins⟩ := exists_getElem?_of_forall₂ joined foundAt
    refine ⟨i, ⟨row, foundAt, foundRow, held ▸ joins.values window⟩, ?_⟩
    intro j reads
    obtain ⟨_, foundToo, -⟩ := reads
    exact ((List.getElem?_inj inside nodup).1 (foundAt.trans foundToo.symm)).symm
  · intro once
    obtain ⟨i, row, foundAt, -⟩ := once.exists
    exact (mem_keys_outputKeys.1 (List.mem_of_getElem? foundAt)).paired

end PairedIndex

end PeriodCompare
