import Mathlib.Data.List.Forall2
import Mathlib.Data.List.Range
import PeriodCompare.Proofs.Order
import PeriodCompare.Proofs.Plan

set_option autoImplicit false

namespace PeriodCompare

structure Cell where
  dimension : Option Dimension
  bucket : Nat
  deriving DecidableEq

namespace Cell

def name? (cell : Cell) : Option String :=
  cell.dimension.map (·.name)

def value? (cell : Cell) : Option String :=
  cell.dimension.map (·.value)

@[simp] theorem name?_mk (dimension : Option Dimension) (bucket : Nat) :
    (mk dimension bucket).name? = dimension.map (·.name) := rfl

@[simp] theorem value?_mk (dimension : Option Dimension) (bucket : Nat) :
    (mk dimension bucket).value? = dimension.map (·.value) := rfl

def Before (groupBy : List String) (a b : Cell) : Prop :=
  (∃ d e, a.dimension = some d ∧ b.dimension = some e ∧ d.Before groupBy e) ∨
    a.dimension = b.dimension ∧ a.bucket < b.bucket

theorem before_asymm {groupBy : List String} {a b : Cell} (before : a.Before groupBy b) :
    ¬ b.Before groupBy a := by
  rintro (⟨d, e, second, first, after⟩ | ⟨same, after⟩) <;>
    rcases before with ⟨x, y, firstToo, secondToo, before⟩ | ⟨sameToo, before⟩
  · obtain rfl := Option.some.inj (first.symm.trans firstToo)
    obtain rfl := Option.some.inj (second.symm.trans secondToo)
    exact Dimension.before_asymm before after
  · obtain rfl := Option.some.inj ((first.symm.trans sameToo).trans second)
    exact Dimension.before_asymm after after
  · obtain rfl := Option.some.inj ((firstToo.symm.trans same.symm).trans secondToo)
    exact Dimension.before_asymm before before
  · exact lt_asymm before after

theorem nodup_of_before {groupBy : List String} {cells : List Cell}
    (ordered : cells.Pairwise (Before groupBy)) : cells.Nodup :=
  nodup_of_asymm (fun _ _ => before_asymm) ordered

theorem eq_of_mem_iff {groupBy : List String} {cells others : List Cell}
    (ordered : cells.Pairwise (Before groupBy)) (orderedToo : others.Pairwise (Before groupBy))
    (same : ∀ cell, cell ∈ cells ↔ cell ∈ others) : cells = others :=
  eq_of_mem_iff_of_asymm (fun _ _ => before_asymm) ordered orderedToo same

end Cell

def Request.cellQuery (r : Request) (topK : Nat) (functions : List MetricFunction)
    (pair : Interval × Interval) (cell : Cell) (window : Window) : Query :=
  (r.withWindows pair.1 pair.2).query topK functions cell.bucket cell.name? window

section CellQuery

variable (r : Request) (topK : Nat) (functions : List MetricFunction) (pair : Interval × Interval)
  (cell : Cell) (window : Window)

@[simp] theorem Request.cellQuery_window :
    (r.cellQuery topK functions pair cell window).window = window :=
  query_window ..

@[simp] theorem Request.cellQuery_bucket :
    (r.cellQuery topK functions pair cell window).bucket = cell.bucket :=
  query_bucket ..

@[simp] theorem Request.cellQuery_groupBy :
    (r.cellQuery topK functions pair cell window).groupBy = cell.name? :=
  query_groupBy ..

end CellQuery

structure Row.At (windows : Windows) (cell : Cell) (row : Row) : Prop where
  intervals : windows.pair? cell.bucket = some (row.baseline, row.current)
  dimension : row.dimension = cell.dimension

namespace Layout

def keyOf (layout : Layout) (cell : Cell) : Key :=
  ⟨if layout.keysBucket then some cell.bucket else none, cell.dimension⟩

def cells (layout : Layout) (dimensions : List Dimension) (size : Nat) : List Cell :=
  match layout with
  | .tabular => (List.range size).map (⟨none, ·⟩)
  | .contributor => dimensions.flatMap fun d => (List.range size).map (⟨some d, ·⟩)
  | .heatmap => dimensions.map (⟨some ·, 0⟩)

variable {layout : Layout} {dimensions : List Dimension} {size : Nat} {cell : Cell}

theorem cells_tabular (dimensions : List Dimension) :
    Layout.tabular.cells dimensions size = (List.range size).map (⟨none, ·⟩) := rfl

theorem bucket_lt_of_mem_cells (pos : 0 < size) (member : cell ∈ layout.cells dimensions size) :
    cell.bucket < size := by
  cases layout with
  | tabular =>
    obtain ⟨bucket, inside, rfl⟩ := List.mem_map.1 member
    exact List.mem_range.1 inside
  | contributor =>
    obtain ⟨d, -, inGroup⟩ := List.mem_flatMap.1 member
    obtain ⟨bucket, inside, rfl⟩ := List.mem_map.1 inGroup
    exact List.mem_range.1 inside
  | heatmap =>
    obtain ⟨d, -, rfl⟩ := List.mem_map.1 member
    exact pos

theorem mem_cells_of_keysDimension (grouped : layout.keysDimension = true)
    (whole : layout = .heatmap → size = 1) :
    cell ∈ layout.cells dimensions size ↔
      (∃ d ∈ dimensions, cell.dimension = some d) ∧ cell.bucket < size := by
  rcases cell with ⟨dimension, bucket⟩
  cases layout with
  | tabular => simp [keysDimension] at grouped
  | contributor =>
    simp only [cells, List.mem_flatMap, List.mem_map, List.mem_range, Cell.mk.injEq]
    constructor
    · intro placed
      obtain ⟨d, member, other, inside, rfl, rfl⟩ := placed
      exact ⟨⟨d, member, rfl⟩, inside⟩
    · intro placed
      obtain ⟨⟨d, member, rfl⟩, inside⟩ := placed
      exact ⟨d, member, bucket, inside, rfl, rfl⟩
  | heatmap =>
    simp only [cells, List.mem_map, Cell.mk.injEq, whole rfl, Nat.lt_one_iff]
    constructor
    · intro placed
      obtain ⟨d, member, rfl, rfl⟩ := placed
      exact ⟨⟨d, member, rfl⟩, rfl⟩
    · intro placed
      obtain ⟨⟨d, member, rfl⟩, rfl⟩ := placed
      exact ⟨d, member, rfl, rfl⟩

theorem length_cells_of_keysDimension (grouped : layout.keysDimension = true)
    (whole : layout = .heatmap → size = 1) :
    (layout.cells dimensions size).length = size * dimensions.length := by
  cases layout with
  | tabular => simp [keysDimension] at grouped
  | contributor => simp [cells, List.length_flatMap, Nat.mul_comm]
  | heatmap => simp [cells, whole rfl]

theorem pairwise_cells {groupBy : List String}
    (ordered : dimensions.Pairwise (Dimension.Before groupBy)) :
    (layout.cells dimensions size).Pairwise (Cell.Before groupBy) := by
  have byBucket (d : Option Dimension) :
      ((List.range size).map (Cell.mk d)).Pairwise (Cell.Before groupBy) :=
    List.pairwise_map.2 (List.pairwise_lt_range.imp fun less => .inr ⟨rfl, less⟩)
  cases layout with
  | tabular => exact byBucket none
  | contributor =>
    refine List.pairwise_flatMap.2 ⟨fun d _ => byBucket (some d), ordered.imp ?_⟩
    intro d e before x inX y inY
    obtain ⟨_, -, rfl⟩ := List.mem_map.1 inX
    obtain ⟨_, -, rfl⟩ := List.mem_map.1 inY
    exact .inl ⟨d, e, rfl, rfl, before⟩
  | heatmap => exact List.pairwise_map.2 (ordered.imp fun before => .inl ⟨_, _, rfl, rfl, before⟩)

end Layout

theorem forall₂_filterMap {α β : Type} {f : α → Option β} {l : List α}
    (found : ∀ a ∈ l, ∃ b, f a = some b) :
    List.Forall₂ (fun a b => f a = some b) l (l.filterMap f) := by
  induction l with
  | nil => exact .nil
  | cons a rest ih =>
    obtain ⟨b, first⟩ := found a List.mem_cons_self
    rw [List.filterMap_cons_some first]
    exact .cons first (ih fun a member => found a (List.mem_cons_of_mem _ member))

theorem forall₂_mem {α β : Type} {p : α → β → Prop} {as : List α} {bs : List β}
    (all : List.Forall₂ p as bs) : List.Forall₂ (fun a b => a ∈ as ∧ p a b) as bs := by
  obtain ⟨sameLength, each⟩ := List.forall₂_iff_zip.1 all
  exact List.forall₂_iff_zip.2 ⟨sameLength, fun member => ⟨(List.of_mem_zip member).1, each member⟩⟩

theorem exists_getElem?_of_forall₂ {α β : Type} {p : α → β → Prop} {as : List α} {bs : List β}
    (all : List.Forall₂ p as bs) {i : Nat} {a : α} (found : as[i]? = some a) :
    ∃ b, bs[i]? = some b ∧ p a b := by
  obtain ⟨inside, rfl⟩ := List.getElem?_eq_some_iff.1 found
  have insideToo : i < bs.length := all.length_eq ▸ inside
  exact ⟨bs[i], List.getElem?_eq_getElem insideToo, all.get inside insideToo⟩

theorem forall₂_comp {α β γ : Type} {p : α → β → Prop} {q : β → γ → Prop} {as : List α}
    {bs : List β} {cs : List γ} (first : List.Forall₂ p as bs) (second : List.Forall₂ q bs cs) :
    List.Forall₂ (fun a c => ∃ b, p a b ∧ q b c) as cs := by
  induction first generalizing cs with
  | nil =>
    cases second
    exact .nil
  | cons head _ ih =>
    cases second with
    | cons next rest => exact .cons ⟨_, head, next⟩ (ih rest)

namespace PairedIndex

variable (w : PairedIndex) (layout : Layout) (windows : Windows) (functions : List MetricFunction)
  (groupBy : List String)

theorem outputKeys_eq :
    w.outputKeys layout windows groupBy =
      (layout.cells (w.orderedDimensions groupBy) windows.size).filterMap fun cell =>
        (windows.pair? cell.bucket).map fun pair => (layout.keyOf cell, pair) := by
  cases layout with
  | tabular =>
    simp [outputKeys, Layout.cells, Layout.keyOf, Layout.keysBucket, Windows.pairs,
      List.map_filterMap, List.filterMap_map, Function.comp_def]
  | contributor =>
    simp [outputKeys, Layout.cells, Layout.keyOf, Layout.keysBucket, Windows.pairs,
      List.map_filterMap, List.filterMap_map, List.filterMap_flatMap, Function.comp_def]
  | heatmap =>
    cases found : windows.pair? 0 <;>
      simp [outputKeys, Layout.cells, Layout.keyOf, Layout.keysBucket, List.filterMap_map, found]

theorem join_eq :
    w.join layout windows functions groupBy =
      (layout.cells (w.orderedDimensions groupBy) windows.size).filterMap fun cell =>
        (windows.pair? cell.bucket).map (w.row functions (layout.keyOf cell)) := by
  simp [join, outputKeys_eq, List.map_filterMap, Function.comp_def]

theorem forall₂_join (aligned : windows.Aligned) (pos : 0 < windows.size) :
    List.Forall₂
      (fun cell row => ∃ pair, windows.pair? cell.bucket = some pair ∧
        row = w.row functions (layout.keyOf cell) pair)
      (layout.cells (w.orderedDimensions groupBy) windows.size)
      (w.join layout windows functions groupBy) := by
  rw [join_eq]
  refine (forall₂_filterMap fun cell member => ?_).imp fun cell row made => ?_
  · obtain ⟨pair, found⟩ := Windows.exists_pair? aligned (Layout.bucket_lt_of_mem_cells pos member)
    exact ⟨_, by rw [found]; rfl⟩
  · obtain ⟨pair, found, rfl⟩ := Option.map_eq_some_iff.1 made
    exact ⟨pair, found, rfl⟩

end PairedIndex

end PeriodCompare
