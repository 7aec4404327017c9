import Mathlib.Data.Set.Card
import PeriodCompare.Dispatch.World
import PeriodCompare.Proofs.Cell
import PeriodCompare.Proofs.Index

set_option autoImplicit false

namespace PeriodCompare

structure Request.Answered (r : Request) (topK : Nat) (functions : List MetricFunction)
    (windows : Windows) (answers : Answers) (order : List (Query × Answer)) : Prop where
  cut : r.windows = .ok windows
  batch : ∃ queries, r.bucketQueries topK functions windows = .ok queries ∧
    ∀ q, q ∈ answers.keys ↔ q ∈ queries
  nodup : answers.keys.Nodup
  perm : order.Perm answers.entries

def Request.cells (r : Request) (answers : List (Query × Answer)) (size : Nat) : List Cell :=
  r.layout.cells ((PairedIndex.ofAnswers r.layout answers).orderedDimensions r.groupBy) size

def Seen (answers : List (Query × Answer)) (d : Dimension) : Prop :=
  ∃ pair ∈ answers, pair.1.groupBy = some d.name ∧
    ∃ row ∈ pair.2.rows, row.dimensions.head? = some d.value

/-- The cells of an answer in the order of its rows: all buckets, with grouping for each dimension
value seen in some answer. -/
structure Request.Covers (r : Request) (answers : List (Query × Answer)) (size : Nat)
    (cells : List Cell) : Prop where
  whole : r.granularity = none → size = 1
  ungrouped : r.isGrouped = false → cells = (List.range size).map (⟨none, ·⟩)
  grouped : r.isGrouped = true → ∀ cell, cell ∈ cells ↔
    (∃ d, Seen answers d ∧ cell.dimension = some d) ∧ cell.bucket < size
  ordered : cells.Pairwise (Cell.Before r.groupBy)

theorem Request.Covers.eq {r other : Request} {answers others : List (Query × Answer)} {size : Nat}
    {cells cellsToo : List Cell} (covers : r.Covers answers size cells)
    (coversToo : other.Covers others size cellsToo) (sameGroups : other.groupBy = r.groupBy)
    (sameSeen : ∀ d, Seen others d ↔ Seen answers d) : cellsToo = cells := by
  have sameGrouping : other.isGrouped = r.isGrouped := by rw [isGrouped, sameGroups, isGrouped]
  cases grouped : r.isGrouped with
  | false => rw [covers.ungrouped grouped, coversToo.ungrouped (sameGrouping.trans grouped)]
  | true =>
    refine Cell.eq_of_mem_iff (sameGroups ▸ coversToo.ordered) covers.ordered fun cell => ?_
    rw [coversToo.grouped (sameGrouping.trans grouped), covers.grouped grouped]
    simp only [sameSeen]

def OwnBuckets (answers : List (Query × Answer)) : Prop :=
  ∀ pair ∈ answers, ∀ row ∈ pair.2.rows, row.bucket = none ∨ row.bucket = some pair.1.bucket

theorem ownBuckets_of_unstamped {respond : Query → Answer} (queries : List Query)
    (unstamped : ∀ q, ∀ row ∈ (respond q).rows, row.bucket = none) :
    OwnBuckets (Table.ofList (queries.map fun q => (q, respond q))).entries := by
  intro pair member row inRows
  obtain ⟨q, -, rfl⟩ := List.mem_map.1 (Table.mem_of_mem_entries_ofList member)
  exact .inl (unstamped q row inRows)

def AnswerRow.carries (row : AnswerRow) : Option String → Bool
  | none => true
  | some value => row.dimensions.head? = some value

def Answer.lastRow? (a : Answer) (value : Option String) : Option AnswerRow :=
  (a.rows.filter (·.carries value)).getLast?

theorem Answer.isSome_lastRow? (a : Answer) (value : String) :
    (a.lastRow? (some value)).isSome = true ↔ ∃ row ∈ a.rows, row.dimensions.head? = some value := by
  simp [lastRow?, AnswerRow.carries]

namespace Request

variable {r : Request}

theorem layout_of_ungrouped (ungrouped : r.isGrouped = false) : r.layout = .tabular := by
  rw [layout, ungrouped]
  cases r.granularity.isSome <;> rfl

theorem cells_of_ungrouped (ungrouped : r.isGrouped = false) {answers : List (Query × Answer)}
    {size : Nat} : r.cells answers size = (List.range size).map (⟨none, ·⟩) := by
  rw [cells, layout_of_ungrouped ungrouped, Layout.cells_tabular]

theorem keysDimension_of_grouped (grouped : r.isGrouped = true) :
    r.layout.keysDimension = true := by
  rw [layout, grouped]
  cases r.granularity.isSome <;> rfl

theorem granularity_of_heatmap (heatmap : r.layout = .heatmap) : r.granularity = none := by
  cases granularity : r.granularity with
  | none => rfl
  | some g => cases grouped : r.isGrouped <;> simp [layout, Layout.of, granularity, grouped] at heatmap

theorem size_of_no_granularity {windows : Windows} (planned : r.windows = .ok windows)
    (whole : r.granularity = none) : windows.size = 1 := by
  rw [windows_of_no_granularity whole planned]
  rfl

end Request

namespace Layout

theorem lastValue_keyed (layout : Layout) (q : Query) (a : Answer) (key : Key) :
    Table.lastValue key (layout.keyed q a) =
      (a.rows.filter (layout.key? q a · = some key)).getLast? := by
  exact (Table.lastValue_filterMap key (layout.key? q a) id a.rows).trans Option.map_id'

theorem tabular_key?_eq_keyOf {q : Query} {a : Answer} {row : AnswerRow} {bucket : Nat} :
    Layout.tabular.key? q a row = some (Layout.tabular.keyOf ⟨none, bucket⟩) ↔
      row.bucket.getD q.bucket = bucket := by
  simp [key?, keyOf, keysBucket, keysDimension]

theorem key?_eq_keyOf_of_keysDimension {layout : Layout} (keyed : layout.keysDimension = true)
    {q : Query} {name : String} (asked : q.groupBy = some name) {a : Answer} {row : AnswerRow}
    {d : Dimension} {bucket : Nat} :
    layout.key? q a row = some (layout.keyOf ⟨some d, bucket⟩) ↔
      (layout.keysBucket = true → row.bucket.getD q.bucket = bucket) ∧ name = d.name ∧
        row.dimensions.head? = some d.value := by
  rcases d with ⟨dName, dValue⟩
  cases head : row.dimensions.head? <;> cases whole : layout.keysBucket <;>
    simp [key?, keyOf, keyed, whole, Answer.dimension?, Answer.dimensionName?, asked, head]

end Layout

namespace Request.Answered

variable {r : Request} {topK : Nat} {functions : List MetricFunction} {windows : Windows}
  {answers : Answers} {order : List (Query × Answer)}

theorem size_of_heatmap (answered : r.Answered topK functions windows answers order)
    (heatmap : r.layout = .heatmap) : windows.size = 1 :=
  size_of_no_granularity answered.cut (granularity_of_heatmap heatmap)

theorem get?_of_mem (answered : r.Answered topK functions windows answers order) {q : Query}
    {a : Answer} (member : (q, a) ∈ order) : answers.get? q = some a :=
  (answers.mem_entries_iff answered.nodup q a).1 (answered.perm.mem_iff.1 member)

theorem mem_of_get? (answered : r.Answered topK functions windows answers order) {q : Query}
    {a : Answer} (found : answers.get? q = some a) : (q, a) ∈ order :=
  answered.perm.mem_iff.2 ((answers.mem_entries_iff answered.nodup q a).2 found)

theorem exists_query (answered : r.Answered topK functions windows answers order) {q : Query}
    {a : Answer} (member : (q, a) ∈ order) :
    ∃ bucket pair dimension window, windows.pair? bucket = some pair ∧ dimension ∈ r.breakdowns ∧
      q = (r.withWindows pair.1 pair.2).query topK functions bucket dimension window := by
  obtain ⟨queries, planned, keys⟩ := answered.batch
  refine (mem_bucketQueries planned q).1 ((keys q).1 ?_)
  rw [← Table.get?_isSome_iff, answered.get?_of_mem member]
  rfl

theorem exists_answer (answered : r.Answered topK functions windows answers order) {cell : Cell}
    {pair : Interval × Interval} (found : windows.pair? cell.bucket = some pair)
    (declared : cell.name? ∈ r.breakdowns) (window : Window) :
    ∃ answer, answers.get? (r.cellQuery topK functions pair cell window) = some answer := by
  obtain ⟨queries, planned, keys⟩ := answered.batch
  have member := (mem_bucketQueries planned _).2
    ⟨cell.bucket, pair, cell.name?, window, found, declared, rfl⟩
  exact Option.isSome_iff_exists.1 ((answers.get?_isSome_iff _).2 ((keys _).2 member))

theorem eq_of_mem (answered : r.Answered topK functions windows answers order)
    {first second : Query × Answer} (inFirst : first ∈ order) (inSecond : second ∈ order)
    (sameWindow : first.1.window = second.1.window) (sameBucket : first.1.bucket = second.1.bucket)
    (sameGroup : first.1.groupBy = second.1.groupBy) : first = second := by
  rcases first with ⟨q, a⟩
  rcases second with ⟨other, b⟩
  obtain ⟨queries, planned, keys⟩ := answered.batch
  have foundFirst := answered.get?_of_mem inFirst
  have foundSecond := answered.get?_of_mem inSecond
  have planFirst := (keys q).1 ((answers.get?_isSome_iff q).1 (by simp [foundFirst]))
  have planSecond := (keys other).1 ((answers.get?_isSome_iff other).1 (by simp [foundSecond]))
  obtain rfl := eq_of_mem_bucketQueries planned planFirst planSecond sameWindow sameBucket sameGroup
  obtain rfl := Option.some.inj (foundFirst.symm.trans foundSecond)
  rfl

theorem groupBy_of_grouped (answered : r.Answered topK functions windows answers order)
    (grouped : r.isGrouped = true) {q : Query} {a : Answer} (member : (q, a) ∈ order) :
    ∃ name ∈ r.groupBy, q.groupBy = some name := by
  obtain ⟨_, _, dimension, _, -, declared, rfl⟩ := answered.exists_query member
  obtain ⟨name, inGroups, rfl⟩ := (mem_breakdowns_of_grouped grouped dimension).1 declared
  exact ⟨name, inGroups, query_groupBy ..⟩

theorem mem_dimensions (answered : r.Answered topK functions windows answers order)
    (grouped : r.isGrouped = true) (d : Dimension) :
    d ∈ (PairedIndex.ofAnswers r.layout order).orderedDimensions r.groupBy ↔
      Seen answers.entries d := by
  have keysDimension := keysDimension_of_grouped grouped
  have byKey (q : Query) (a : Answer) (row : AnswerRow) (member : (q, a) ∈ order) :
      (∃ key, r.layout.key? q a row = some key ∧ key.dimension = some d) ↔
        q.groupBy = some d.name ∧ row.dimensions.head? = some d.value := by
    obtain ⟨name, -, groupedBy⟩ := answered.groupBy_of_grouped grouped member
    rcases d with ⟨dName, dValue⟩
    cases head : row.dimensions.head? <;>
      simp [Layout.key?, keysDimension, Answer.dimension?, Answer.dimensionName?, groupedBy, head]
  rw [PairedIndex.mem_orderedDimensions_ofAnswers, Seen]
  constructor
  · intro keyed
    obtain ⟨⟨q, a⟩, member, row, inRows, keyed⟩ := keyed
    obtain ⟨name, value⟩ := (byKey q a row member).1 keyed
    exact ⟨(q, a), answered.perm.mem_iff.1 member, name, row, inRows, value⟩
  · intro seen
    obtain ⟨⟨q, a⟩, member, name, row, inRows, value⟩ := seen
    have inOrder := answered.perm.mem_iff.2 member
    exact ⟨(q, a), inOrder, row, inRows, (byKey q a row inOrder).2 ⟨name, value⟩⟩

theorem seen_declared (answered : r.Answered topK functions windows answers order)
    (grouped : r.isGrouped = true) {d : Dimension} (seen : Seen answers.entries d) :
    d.name ∈ r.groupBy := by
  obtain ⟨⟨q, a⟩, member, name, -⟩ := seen
  obtain ⟨declared, inGroups, same⟩ :=
    answered.groupBy_of_grouped grouped (answered.perm.mem_iff.2 member)
  obtain rfl := Option.some.inj (same.symm.trans name)
  exact inGroups

theorem declared_of_mem_cells (answered : r.Answered topK functions windows answers order)
    {cell : Cell}
    (member : cell ∈ r.cells order windows.size) : cell.name? ∈ r.breakdowns := by
  unfold Request.cells at member
  cases grouped : r.isGrouped with
  | false =>
    rw [layout_of_ungrouped grouped] at member
    obtain ⟨bucket, -, rfl⟩ := List.mem_map.1 member
    exact (mem_breakdowns_of_ungrouped grouped none).2 rfl
  | true =>
    obtain ⟨⟨d, inDimensions, found⟩, -⟩ :=
      (Layout.mem_cells_of_keysDimension (keysDimension_of_grouped grouped)
        answered.size_of_heatmap).1 member
    have declared := answered.seen_declared grouped
      ((answered.mem_dimensions grouped d).1 inDimensions)
    exact (mem_breakdowns_of_grouped grouped _).2 ⟨d.name, declared, by rw [Cell.name?, found]; rfl⟩

theorem bucket_eq_iff (answered : r.Answered topK functions windows answers order) {a b : Nat}
    (first : a < windows.size) (second : b < windows.size) :
    (r.layout.keysBucket = true → a = b) ↔ a = b := by
  constructor
  · intro keyed
    cases layout : r.layout with
    | tabular => exact keyed (by rw [layout]; rfl)
    | contributor => exact keyed (by rw [layout]; rfl)
    | heatmap =>
      have one := answered.size_of_heatmap layout
      omega
  · intro same _
    exact same

theorem key?_eq_keyOf (answered : r.Answered topK functions windows answers order)
    (own : OwnBuckets order) {q : Query} {a : Answer} {row : AnswerRow} {cell : Cell}
    (member : (q, a) ∈ order) (inRows : row ∈ a.rows) (inside : cell.bucket < windows.size)
    (declared : cell.name? ∈ r.breakdowns) :
    r.layout.key? q a row = some (r.layout.keyOf cell) ↔
      q.bucket = cell.bucket ∧ q.groupBy = cell.name? ∧
        row.carries cell.value? = true := by
  have bucket : row.bucket.getD q.bucket = q.bucket := by
    rcases own (q, a) member row inRows with absent | same
    · simp [absent]
    · simp [same]
  obtain ⟨asked, pair, breakdown, _, found, askedDeclared, rfl⟩ := answered.exists_query member
  rw [query_bucket] at bucket
  rcases cell with ⟨dimension, cellBucket⟩
  cases grouped : r.isGrouped with
  | false =>
    obtain rfl := (mem_breakdowns_of_ungrouped grouped breakdown).1 askedDeclared
    obtain rfl := Option.map_eq_none_iff.1 ((mem_breakdowns_of_ungrouped grouped _).1 declared)
    simp [layout_of_ungrouped grouped, Layout.tabular_key?_eq_keyOf, bucket, AnswerRow.carries]
  | true =>
    obtain ⟨name, -, rfl⟩ := (mem_breakdowns_of_grouped grouped breakdown).1 askedDeclared
    obtain ⟨_, -, same⟩ := (mem_breakdowns_of_grouped grouped _).1 declared
    obtain ⟨d, rfl, -⟩ := Option.map_eq_some_iff.1 same
    rw [Layout.key?_eq_keyOf_of_keysDimension (keysDimension_of_grouped grouped) (query_groupBy ..),
      query_bucket, bucket, answered.bucket_eq_iff (Windows.lt_size_of_pair? found) inside]
    simp [AnswerRow.carries]

theorem get?_keyOf (answered : r.Answered topK functions windows answers order)
    (own : OwnBuckets order) {cell : Cell} {pair : Interval × Interval}
    (found : windows.pair? cell.bucket = some pair)
    (declared : cell.name? ∈ r.breakdowns) (window : Window) :
    (PairedIndex.ofAnswers r.layout order).get? window (r.layout.keyOf cell) =
      (answers.get? (r.cellQuery topK functions pair cell window)).bind
        (·.lastRow? cell.value?) := by
  have inside := Windows.lt_size_of_pair? found
  obtain ⟨answer, answeredBy⟩ := answered.exists_answer found declared window
  have chosen := answered.mem_of_get? answeredBy
  -- A row under this key can only come from the one query for the cell in this window.
  have only : ∀ other ∈ order, ∀ keyed ∈ r.layout.keyedIn window other,
      keyed.1 = r.layout.keyOf cell →
        other = (r.cellQuery topK functions pair cell window, answer) := by
    rintro ⟨q, a⟩ member ⟨key, row⟩ keyed rfl
    by_cases asked : q.window = window
    · rw [Layout.keyedIn, if_pos asked, Layout.mem_keyed] at keyed
      obtain ⟨bucket, group, -⟩ :=
        (answered.key?_eq_keyOf own member keyed.1 inside declared).1 keyed.2
      exact answered.eq_of_mem member chosen (by simp [asked]) (by simp [bucket]) (by simp [group])
    · simp [Layout.keyedIn, asked] at keyed
  rw [PairedIndex.get?_ofAnswers, Table.lastValue_flatMap _ only chosen, answeredBy,
    Layout.keyedIn, if_pos (cellQuery_window ..), Layout.lastValue_keyed, Option.bind_some,
    Answer.lastRow?]
  congr 1
  apply List.filter_congr
  intro row inRows
  have filed := answered.key?_eq_keyOf own chosen inRows inside declared
  simp only [cellQuery_bucket, cellQuery_groupBy, true_and] at filed
  simp [filed]

theorem mem_cells (answered : r.Answered topK functions windows answers order)
    (grouped : r.isGrouped = true) (cell : Cell) :
    cell ∈ r.cells order windows.size ↔
      (∃ d, Seen answers.entries d ∧ cell.dimension = some d) ∧ cell.bucket < windows.size := by
  rw [Request.cells, Layout.mem_cells_of_keysDimension (keysDimension_of_grouped grouped)
    answered.size_of_heatmap]
  simp only [answered.mem_dimensions grouped]

theorem pairwise_cells (answered : r.Answered topK functions windows answers order) :
    (r.cells order windows.size).Pairwise (Cell.Before r.groupBy) := by
  cases grouped : r.isGrouped with
  | false =>
    rw [cells_of_ungrouped grouped, ← Layout.cells_tabular []]
    exact Layout.pairwise_cells .nil
  | true =>
    apply Layout.pairwise_cells
    refine List.Pairwise.imp_of_mem ?_ (PairedIndex.strict_orderedDimensions _ r.groupBy)
    intro d e member _ less
    have declared := answered.seen_declared grouped ((answered.mem_dimensions grouped d).1 member)
    exact Dimension.before_of_place declared less

theorem covers (answered : r.Answered topK functions windows answers order) :
    r.Covers answers.entries windows.size (r.cells order windows.size) where
  whole := size_of_no_granularity answered.cut
  ungrouped ungrouped := cells_of_ungrouped ungrouped
  grouped := answered.mem_cells
  ordered := answered.pairwise_cells

theorem seen_eq (answered : r.Answered topK functions windows answers order)
    (grouped : r.isGrouped = true) :
    {d | Seen answers.entries d} =
      ((PairedIndex.ofAnswers r.layout order).orderedDimensions r.groupBy).toFinset := by
  ext d
  simp [answered.mem_dimensions grouped]

theorem not_seen_of_ungrouped (answered : r.Answered topK functions windows answers order)
    (ungrouped : r.isGrouped = false) (d : Dimension) : ¬ Seen answers.entries d := by
  intro seen
  obtain ⟨⟨q, a⟩, member, grouped, -⟩ := seen
  obtain ⟨_, _, asked, _, -, declared, rfl⟩ :=
    answered.exists_query (answered.perm.mem_iff.2 member)
  obtain rfl := (mem_breakdowns_of_ungrouped ungrouped asked).1 declared
  simp at grouped

theorem finite_seen (answered : r.Answered topK functions windows answers order) :
    Set.Finite {d | Seen answers.entries d} := by
  cases grouped : r.isGrouped with
  | false => simp [answered.not_seen_of_ungrouped grouped]
  | true =>
    rw [answered.seen_eq grouped]
    exact Finset.finite_toSet _

theorem length_cells (answered : r.Answered topK functions windows answers order) :
    (r.cells order windows.size).length =
      if r.isGrouped then windows.size * Set.ncard {d | Seen answers.entries d}
      else windows.size := by
  cases grouped : r.isGrouped with
  | false => simp [cells_of_ungrouped grouped]
  | true =>
    have nodup : ((PairedIndex.ofAnswers r.layout order).orderedDimensions r.groupBy).Nodup :=
      (PairedIndex.strict_orderedDimensions _ r.groupBy).imp fun less e => (e ▸ less).false
    rw [if_pos rfl, Request.cells,
      Layout.length_cells_of_keysDimension (keysDimension_of_grouped grouped)
        answered.size_of_heatmap,
      answered.seen_eq grouped, Set.ncard_coe_finset, List.toFinset_card_of_nodup nodup]

theorem cells_congr {other : List (Query × Answer)}
    (answered : r.Answered topK functions windows answers order)
    (reordered : r.Answered topK functions windows answers other) :
    r.cells order windows.size = r.cells other windows.size :=
  reordered.covers.eq answered.covers rfl fun _ => Iff.rfl

theorem join_congr_of_get? {other : List (Query × Answer)}
    (answered : r.Answered topK functions windows answers order)
    (reordered : r.Answered topK functions windows answers other)
    (same : ∀ cell ∈ r.cells order windows.size, ∀ pair, windows.pair? cell.bucket = some pair →
      ∀ window, (PairedIndex.ofAnswers r.layout order).get? window (r.layout.keyOf cell) =
        (PairedIndex.ofAnswers r.layout other).get? window (r.layout.keyOf cell)) :
    (PairedIndex.ofAnswers r.layout order).join r.layout windows functions r.groupBy =
      (PairedIndex.ofAnswers r.layout other).join r.layout windows functions r.groupBy := by
  have cells := answered.cells_congr reordered
  simp only [Request.cells] at cells
  rw [PairedIndex.join_eq, PairedIndex.join_eq, ← cells]
  apply List.filterMap_congr
  intro cell member
  cases found : windows.pair? cell.bucket with
  | none => rfl
  | some pair =>
    simp only [Option.map_some, PairedIndex.row, PairedIndex.valueAt, same cell member pair found]

theorem join_congr {other : List (Query × Answer)}
    (answered : r.Answered topK functions windows answers order)
    (reordered : r.Answered topK functions windows answers other) (own : OwnBuckets order) :
    (PairedIndex.ofAnswers r.layout order).join r.layout windows functions r.groupBy =
      (PairedIndex.ofAnswers r.layout other).join r.layout windows functions r.groupBy := by
  have ownOther : OwnBuckets other := fun pair member =>
    own pair (answered.perm.mem_iff.2 (reordered.perm.mem_iff.1 member))
  apply answered.join_congr_of_get? reordered
  intro cell member pair found window
  have declared := answered.declared_of_mem_cells member
  rw [answered.get?_keyOf own found declared, reordered.get?_keyOf ownOther found declared]

theorem groupBy_of_key? (answered : r.Answered topK functions windows answers order) {q : Query}
    {a : Answer} {row : AnswerRow} {key : Key} (member : (q, a) ∈ order)
    (keyed : r.layout.key? q a row = some key) : q.groupBy = key.dimension.map (·.name) := by
  cases grouped : r.isGrouped with
  | false =>
    obtain ⟨_, _, _, _, -, declared, rfl⟩ := answered.exists_query member
    obtain rfl := (mem_breakdowns_of_ungrouped grouped _).1 declared
    rw [layout_of_ungrouped grouped] at keyed
    obtain rfl := Option.some.inj keyed
    rfl
  | true =>
    obtain ⟨name, -, asked⟩ := answered.groupBy_of_grouped grouped member
    simp only [Layout.key?, keysDimension_of_grouped grouped, if_true, Option.map_eq_some_iff,
      Answer.dimension?, Answer.dimensionName?, asked] at keyed
    obtain ⟨d, found, rfl⟩ := keyed
    cases head : row.dimensions.head? with
    | none => simp [head] at found
    | some value =>
      obtain rfl : (⟨name, value⟩ : Dimension) = d := by simpa [head] using found
      rw [asked]
      rfl

-- Where there is one bucket only, rows may name any bucket: still no two queries of a window have
-- rows under one key.
theorem join_congr_of_whole {other : List (Query × Answer)}
    (answered : r.Answered topK functions windows answers order)
    (reordered : r.Answered topK functions windows answers other) (whole : windows.size = 1) :
    (PairedIndex.ofAnswers r.layout order).join r.layout windows functions r.groupBy =
      (PairedIndex.ofAnswers r.layout other).join r.layout windows functions r.groupBy := by
  have first {q : Query} {a : Answer} (member : (q, a) ∈ order) : q.bucket = 0 := by
    obtain ⟨bucket, _, _, _, found, -, rfl⟩ := answered.exists_query member
    have inside := Windows.lt_size_of_pair? found
    rw [query_bucket]
    omega
  apply answered.join_congr_of_get? reordered
  intro cell _ pair _ window
  refine PairedIndex.get?_ofAnswers_perm (answered.perm.trans reordered.perm.symm) ?_ window _
  rintro ⟨q, a⟩ member ⟨other, b⟩ memberToo sameWindow
    ⟨key, ⟨row, -, files⟩, ⟨rowToo, -, filesToo⟩⟩
  refine answered.eq_of_mem member memberToo sameWindow
    ((first member).trans (first memberToo).symm) ?_
  rw [answered.groupBy_of_key? member (Layout.key?_eq_some.2 files),
    answered.groupBy_of_key? memberToo (Layout.key?_eq_some.2 filesToo)]

end Request.Answered

end PeriodCompare
