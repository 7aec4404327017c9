import PeriodCompare.Proofs.Refusal
import PeriodCompare.Proofs.StoreComparison

set_option autoImplicit false

namespace PeriodCompare

theorem Filters.mem_acceptIn {name : String} {values : List String}
    {entries : List (String × List String)} (absent : ∀ entry ∈ entries, entry.1 ≠ name)
    (entry : String × List String) :
    entry ∈ acceptIn name values entries ↔ entry = (name, values) ∨ entry ∈ entries := by
  induction entries with
  | nil => simp [acceptIn]
  | cons first rest ih =>
    rw [List.forall_mem_cons] at absent
    rw [acceptIn, if_neg absent.1.symm]
    split
    · rw [List.mem_cons]
    · rw [List.mem_cons, ih absent.2, List.mem_cons]
      exact or_left_comm

namespace Request

def drilled (r : Request) (d : Dimension) : Request :=
  { r with groupBy := [], filters := r.filters.accept d.name [d.value] }

variable {r : Request} {d : Dimension}

theorem isGrouped_of_mem {name : String} (declared : name ∈ r.groupBy) : r.isGrouped = true := by
  simp [isGrouped, List.ne_nil_of_mem declared]

theorem admits_drilled (unfiltered : ∀ entry ∈ r.filters.entries, entry.1 ≠ d.name) (i : Interval)
    (record : Record) :
    (r.drilled d).Admits i record ↔
      r.Admits i record ∧ record.dimensions.get? d.name = some d.value := by
  have entries : ∀ entry, entry ∈ (r.drilled d).filters.entries ↔
      entry = (d.name, [d.value]) ∨ entry ∈ r.filters.entries := Filters.mem_acceptIn unfiltered
  simp only [Admits, entries, forall_eq_or_imp, List.mem_singleton, exists_eq_left]
  tauto

end Request

namespace Store

variable {st : Store} {r : Request} {d : Dimension} {topK : Nat} {functions : List MetricFunction}
  {pair : Interval × Interval} {bucket : Nat} {window : Window}

theorem admitted_drilled (st : Store)
    (unfiltered : ∀ entry ∈ r.filters.entries, entry.1 ≠ d.name) (i : Interval) :
    st.admitted (r.drilled d) i =
      (st.admitted r i).filter (·.dimensions.get? d.name = some d.value) := by
  rw [admitted, admitted, List.filter_filter]
  apply List.filter_congr
  intro record _
  simp [Request.admits_drilled unfiltered, Bool.and_comm]

theorem length_ranking (nan : List Record → Numeric.NaN) (functions : List MetricFunction)
    (dimension : String) (records : List Record) :
    (ranking nan functions dimension records).length =
      (distinct (records.filterMap (·.dimensions.get? dimension))).length := by
  simp [ranking, ranked, groups_eq]

section Uncut

variable {dimension : String}

theorem lastRow?_of_few (st : Store)
    (few : (distinct ((st.admitted r (window.pick pair)).filterMap
      (·.dimensions.get? dimension))).length ≤ topK) (value : String) :
    (st.answer ((r.withWindows pair.1 pair.2).query topK functions bucket (some dimension)
        window)).lastRow? (some value) =
      if value ∈ ranking (st.nan r.collection functions.head?) functions dimension
          (st.admitted r (window.pick pair)) then
        some (groupOf functions dimension (st.admitted r (window.pick pair)) value).toRow
      else none := by
  rw [st.lastRow?_grouped]
  generalize st.admitted r (window.pick pair) = records at few
  generalize st.nan r.collection functions.head? = nan
  have whole : capped functions (some topK) (ranked nan functions dimension records) =
      ranked nan functions dimension records := by
    rw [capped, if_neg]
    rw [ranked_eq, List.length_map, length_ranking]
    exact Nat.not_lt.2 few
  rw [whole, ranked_eq, getLast?_groups]
  split <;> rfl

theorem exists_row_iff_of_few (st : Store)
    (few : (distinct ((st.admitted r (window.pick pair)).filterMap
      (·.dimensions.get? dimension))).length ≤ topK) (value : String) :
    (∃ row ∈ (st.answer ((r.withWindows pair.1 pair.2).query topK functions bucket (some dimension)
        window)).rows, row.dimensions.head? = some value) ↔
      ∃ record ∈ st.admitted r (window.pick pair), record.dimensions.get? dimension = some value := by
  rw [← Answer.isSome_lastRow?, st.lastRow?_of_few few,
    ← @mem_ranking (st.nan r.collection functions.head?) functions]
  split <;> simp [*]

end Uncut

theorem metrics_lastRow?_drilled (st : Store)
    (unfiltered : ∀ entry ∈ r.filters.entries, entry.1 ≠ d.name)
    (few : (distinct ((st.admitted r (window.pick pair)).filterMap
      (·.dimensions.get? d.name))).length ≤ topK) :
    ((st.answer (((r.drilled d).withWindows pair.1 pair.2).query topK functions bucket none
        window)).lastRow? none).map (·.metrics) =
      ((st.answer ((r.withWindows pair.1 pair.2).query topK functions bucket (some d.name)
        window)).lastRow? (some d.value)).map (·.metrics) := by
  rw [st.lastRow?_ungrouped, st.lastRow?_of_few few, st.admitted_drilled unfiltered]
  generalize st.admitted r (window.pick pair) = records
  have shown : d.value ∈ ranking (st.nan r.collection functions.head?) functions d.name records ↔
      ¬ (records.filter (·.dimensions.get? d.name = some d.value)).isEmpty := by
    simp [mem_ranking]
  by_cases nothing : (records.filter (·.dimensions.get? d.name = some d.value)).isEmpty
  · rw [if_pos nothing, if_neg (mt shown.1 (not_not_intro nothing))]
  · rw [if_neg nothing, if_pos (shown.2 nothing)]
    rfl

end Store

namespace Evaluator

variable {v : Evaluator} {metrics : List MetricExpression} {functions : List MetricFunction}

theorem complete_withoutDimension {raw row : Row}
    (completed : v.complete metrics functions raw = .ok row) :
    v.complete metrics functions { raw with dimension := none } =
      .ok { row with dimension := none } := by
  obtain ⟨added, all, rfl⟩ := complete_eq_ok.1 completed
  exact complete_eq_ok.2 ⟨added, all, rfl⟩

end Evaluator

namespace Store

variable {st : Store} {evaluator : Evaluator} {timeout : Duration} {topK : Nat} {r : Request}
  {d : Dimension} {functions : List MetricFunction} {windows : Windows} {queries : List Query}

theorem seen_iff_of_few
    (planned : (st.service evaluator timeout topK).bucketPlan r = .ok (functions, windows, queries))
    {name : String} (declared : name ∈ r.groupBy)
    (few : ∀ bucket pair (window : Window), windows.pair? bucket = some pair →
      (distinct ((st.admitted r (window.pick pair)).filterMap
        (·.dimensions.get? name))).length ≤ topK) (value : String) :
    Seen (st.answers queries).entries ⟨name, value⟩ ↔
      ∃ bucket pair, ∃ window : Window, windows.pair? bucket = some pair ∧
        ∃ record ∈ st.admitted r (window.pick pair), record.dimensions.get? name = some value := by
  have grouped := Request.isGrouped_of_mem declared
  rw [seen_iff_answered grouped (Service.bucketPlan_eq_ok.1 planned).2.2]
  constructor
  · intro answered
    obtain ⟨-, bucket, pair, window, found, shown⟩ := answered
    exact ⟨bucket, pair, window, found,
      (st.exists_row_iff_of_few (few bucket pair window found) value).1 shown⟩
  · intro carried
    obtain ⟨bucket, pair, window, found, record⟩ := carried
    exact ⟨declared, bucket, pair, window, found,
      (st.exists_row_iff_of_few (few bucket pair window found) value).2 record⟩

theorem completes_drilled (unfiltered : ∀ entry ∈ r.filters.entries, entry.1 ≠ d.name)
    (few : ∀ bucket pair (window : Window), windows.pair? bucket = some pair →
      (distinct ((st.admitted r (window.pick pair)).filterMap
        (·.dimensions.get? d.name))).length ≤ topK)
    {bucket : Nat} {row : Row}
    (completes : (st.service evaluator timeout topK).Completes r functions windows st.answer
      ⟨some d, bucket⟩ row) :
    (st.service evaluator timeout topK).Completes (r.drilled d) functions windows st.answer
      ⟨none, bucket⟩ { row with dimension := none } := by
  obtain ⟨pair, found, completed⟩ := completes
  refine ⟨pair, found, ?_⟩
  have value (i : Nat) (window : Window) :
      (r.drilled d).rawValue topK functions st.answer pair ⟨none, bucket⟩ i window =
        r.rawValue topK functions st.answer pair ⟨some d, bucket⟩ i window := by
    have same : ((r.drilled d).cellRow? topK functions st.answer pair ⟨none, bucket⟩ window).map
        (·.metrics) = (r.cellRow? topK functions st.answer pair ⟨some d, bucket⟩ window).map
          (·.metrics) := st.metrics_lastRow?_drilled unfiltered (few bucket pair window found)
    have bound := congrArg (fun metrics => (metrics.bind (·[i]?)).getD 0.0) same
    simp only [Option.bind_map] at bound
    exact bound
  have raw : (r.drilled d).rawRow topK functions st.answer pair ⟨none, bucket⟩ =
      { r.rawRow topK functions st.answer pair ⟨some d, bucket⟩ with dimension := none } := by
    simp only [Request.rawRow, value]
  exact raw ▸ Evaluator.complete_withoutDimension completed

theorem exists_bucketPlan_drilled
    (planned : (st.service evaluator timeout topK).bucketPlan r = .ok (functions, windows, queries))
    (declared : d.name ∈ r.groupBy) (unstalled : ∀ q ∈ queries, st.isStalled q = false) :
    ∃ others,
      (st.service evaluator timeout topK).bucketPlan (r.drilled d) =
        .ok (functions, windows, others) ∧
      ∀ q ∈ others, st.isStalled q = false := by
  obtain ⟨columns, cutInto, batch⟩ := Service.bucketPlan_eq_ok.1 planned
  have needed := (Request.exists_bucketQueries cutInto).1 ⟨queries, batch⟩
  have cutToo : (r.drilled d).windows = .ok windows := cutInto
  obtain ⟨others, batchToo⟩ := (Request.exists_bucketQueries cutToo).2 needed
  refine ⟨others, Service.bucketPlan_eq_ok.2 ⟨columns, cutToo, batchToo⟩, fun q asked => ?_⟩
  have grouped := Request.isGrouped_of_mem declared
  obtain ⟨bucket, pair, dimension, window, found, undeclared, rfl⟩ :=
    (Request.mem_bucketQueries batchToo q).1 asked
  obtain rfl := (Request.mem_breakdowns_of_ungrouped (r := r.drilled d) rfl dimension).1 undeclared
  have asked := (Request.mem_bucketQueries batch _).2 ⟨bucket, pair, some d.name, window, found,
    (Request.mem_breakdowns_of_grouped grouped _).2 ⟨d.name, declared, rfl⟩, rfl⟩
  -- A stall does not look at what a query is grouped by.
  have free := unstalled _ asked
  exact free

variable {w v : World Unit} {order reorder : Answers → List (Query × Answer)} {c : Comparison}
  {name : String}

-- A value that is seen has a row in every bucket, so no derived metric of its part can fail.
theorem exists_part_drilled (reached : v.Reached st.backend)
    (reorders : ∀ answers, (reorder answers).Perm answers.entries)
    (quick : st.latency < timeout.toNanos)
    (planned : (st.service evaluator timeout topK).bucketPlan r = .ok (functions, windows, queries))
    (unstalled : ∀ q ∈ queries, st.isStalled q = false) (declared : d.name ∈ r.groupBy)
    (each : ∀ bucket < windows.size, ∃ row,
      (st.service evaluator timeout topK).Completes (r.drilled d) functions windows st.answer
        ⟨none, bucket⟩ row) :
    ∃ part, ((st.service evaluator timeout topK).compareBy reorder v (r.drilled d)).1 = .ok part ∧
      ∀ bucket < windows.size, ∀ row,
        (st.service evaluator timeout topK).Completes (r.drilled d) functions windows st.answer
          ⟨none, bucket⟩ row → part.rows[bucket]? = some row := by
  obtain ⟨others, plannedToo, unstalledToo⟩ := exists_bucketPlan_drilled planned declared unstalled
  have ungrouped : (r.drilled d).isGrouped = false := rfl
  have eachCell : ∀ cell ∈ (r.drilled d).cells (reorder (st.answers others)) windows.size, ∃ row,
      (st.service evaluator timeout topK).Completes (r.drilled d) functions windows st.answer
        cell row := by
    intro cell member
    rw [Request.cells_of_ungrouped ungrouped] at member
    obtain ⟨bucket, inside, rfl⟩ := List.mem_map.1 member
    exact each bucket (List.mem_range.1 inside)
  obtain ⟨rows, completes⟩ := exists_forall₂ eachCell
  refine ⟨⟨rows⟩, (compareBy_eq_ok reached reorders quick plannedToo unstalledToo).2 completes, ?_⟩
  intro bucket inside row completed
  rw [Request.cells_of_ungrouped ungrouped] at completes
  have place : ((List.range windows.size).map (Cell.mk none ·))[bucket]? = some ⟨none, bucket⟩ := by
    simp [inside]
  obtain ⟨other, found, completedToo⟩ := exists_getElem?_of_forall₂ completes place
  rw [found, completed.unique completedToo]

theorem exists_part_of_completes (reached : v.Reached st.backend)
    (reorders : ∀ answers, (reorder answers).Perm answers.entries)
    (quick : st.latency < timeout.toNanos)
    (planned : (st.service evaluator timeout topK).bucketPlan r = .ok (functions, windows, queries))
    (unstalled : ∀ q ∈ queries, st.isStalled q = false) (declared : d.name ∈ r.groupBy)
    (unfiltered : ∀ entry ∈ r.filters.entries, entry.1 ≠ d.name)
    (few : ∀ bucket pair (window : Window), windows.pair? bucket = some pair →
      (distinct ((st.admitted r (window.pick pair)).filterMap
        (·.dimensions.get? d.name))).length ≤ topK)
    (each : ∀ bucket < windows.size, ∃ row,
      (st.service evaluator timeout topK).Completes r functions windows st.answer
        ⟨some d, bucket⟩ row) {bucket : Nat} {row : Row} (inside : bucket < windows.size)
    (completed : (st.service evaluator timeout topK).Completes r functions windows st.answer
      ⟨some d, bucket⟩ row) :
    ∃ part, ((st.service evaluator timeout topK).compareBy reorder v (r.drilled d)).1 = .ok part ∧
      part.rows[bucket]? = some { row with dimension := none } := by
  have eachDrilled : ∀ bucket < windows.size, ∃ row,
      (st.service evaluator timeout topK).Completes (r.drilled d) functions windows st.answer
        ⟨none, bucket⟩ row := by
    intro bucket inside
    obtain ⟨row, completes⟩ := each bucket inside
    exact ⟨_, completes_drilled unfiltered few completes⟩
  obtain ⟨part, succeeded, rows⟩ :=
    exists_part_drilled reached reorders quick planned unstalled declared eachDrilled
  exact ⟨part, succeeded, rows bucket inside _ (completes_drilled unfiltered few completed)⟩

/-- As long as no ranking by a dimension is cut, the rows for each of its values are those of the
comparison without grouping that is filtered by the value. -/
theorem compareBy_drilled (reached : w.Reached st.backend)
    (orders : ∀ answers, (order answers).Perm answers.entries)
    (quick : st.latency < timeout.toNanos)
    (unstalled : ∀ q ∈ (st.service evaluator timeout topK).asks (.comparison r),
      st.isStalled q = false)
    (declared : name ∈ r.groupBy) (unfiltered : ∀ entry ∈ r.filters.entries, entry.1 ≠ name)
    (few : ∀ windows, r.windows = .ok windows →
      ∀ bucket pair (window : Window), windows.pair? bucket = some pair →
        (distinct ((st.admitted r (window.pick pair)).filterMap
          (·.dimensions.get? name))).length ≤ topK)
    (succeeded : ((st.service evaluator timeout topK).compareBy order w r).1 = .ok c) :
    ∃ windows cells, r.windows = .ok windows ∧ cells.Pairwise (Cell.Before r.groupBy) ∧
      (∀ value bucket, ⟨some ⟨name, value⟩, bucket⟩ ∈ cells ↔ bucket < windows.size ∧
        ∃ other pair, ∃ window : Window, windows.pair? other = some pair ∧
          ∃ record ∈ st.admitted r (window.pick pair),
            record.dimensions.get? name = some value) ∧
      List.Forall₂ (fun cell row => Row.At windows cell row ∧
        (r.granularity = none → cell.bucket = 0) ∧
        ∀ value, cell.dimension = some ⟨name, value⟩ →
          ∀ v, World.Reached st.backend v → ∀ reorder : Answers → List (Query × Answer),
            (∀ answers, (reorder answers).Perm answers.entries) →
              ∃ part, ((st.service evaluator timeout topK).compareBy reorder v
                  (r.drilled ⟨name, value⟩)).1 = .ok part ∧
                part.rows[cell.bucket]? = some { row with dimension := none })
        cells c.rows := by
  obtain ⟨functions, windows, queries, planned, answered, completes⟩ :=
    forall₂_completes reached orders succeeded
  have plan : (st.service evaluator timeout topK).plan (.comparison r) = _ := planned
  rw [Service.asks, plan] at unstalled
  have grouped := Request.isGrouped_of_mem declared
  refine ⟨windows, _, answered.cut, answered.pairwise_cells, fun value bucket => ?_,
    (forall₂_mem completes).imp ?_⟩
  · have occurs := seen_iff_of_few planned declared (few windows answered.cut) value
    rw [answered.mem_cells grouped, and_comm, ← occurs]
    simp
  · intro cell row both
    obtain ⟨member, completed⟩ := both
    obtain ⟨⟨d, seen, dimension⟩, inside⟩ := (answered.mem_cells grouped cell).1 member
    refine ⟨completed.at, fun whole => ?_, fun value named v reachedToo reorder reorders => ?_⟩
    · have one := Request.size_of_no_granularity answered.cut whole
      omega
    · obtain ⟨_, bucket⟩ := cell
      obtain rfl := Option.some.inj (dimension.symm.trans named)
      cases dimension
      -- A value that is seen has a cell in every bucket.
      have each : ∀ other < windows.size, ∃ row,
          (st.service evaluator timeout topK).Completes r functions windows st.answer
            ⟨some ⟨name, value⟩, other⟩ row := by
        intro other insideToo
        have listed := (answered.mem_cells grouped ⟨some ⟨name, value⟩, other⟩).2
          ⟨⟨_, seen, rfl⟩, insideToo⟩
        obtain ⟨shown, -, completedToo⟩ := exists_of_forall₂ completes listed
        exact ⟨shown, completedToo⟩
      exact exists_part_of_completes reachedToo reorders quick planned unstalled declared
        unfiltered (few windows answered.cut) each inside completed

theorem compareBy_drilled_sales : ∃ c part,
    ((sales.service .naming (.ofSecs 1) 2).compareBy Table.entries ⟨(), none, []⟩
      (.orderTotals ["country"])).1 = .ok c ∧
    ((sales.service .naming (.ofSecs 1) 2).compareBy Table.entries ⟨(), none, []⟩
      ((Request.orderTotals ["country"]).drilled ⟨"country", "DE"⟩)).1 = .ok part ∧
    ∃ row ∈ c.rows, row.dimension = some ⟨"country", "DE"⟩ ∧
      row.metrics[0]? = some ⟨"total", 4.0, 0.0⟩ ∧
      part.rows = [{ row with dimension := none }] := by
  have reached : World.Reached sales.backend ⟨(), none, []⟩ := ⟨[], .fresh _ fun _ => rfl⟩
  obtain ⟨c, succeeded⟩ : ∃ c, ((sales.service .naming (.ofSecs 1) 2).compareBy Table.entries
      ⟨(), none, []⟩ (.orderTotals ["country"])).1 = .ok c :=
    Service.exists_compareBy_of_raw rfl rfl rfl
  have few : ∀ windows, (Request.orderTotals ["country"]).windows = .ok windows →
      ∀ bucket pair (window : Window), windows.pair? bucket = some pair →
        (distinct ((sales.admitted (.orderTotals ["country"]) (window.pick pair)).filterMap
          (·.dimensions.get? "country"))).length ≤ 2 := by
    intro windows cutInto bucket pair window found
    obtain rfl := Request.windows_of_no_granularity rfl cutInto
    obtain ⟨-, rfl⟩ := Request.pair?_wholeWindows.1 found
    cases window <;> decide
  obtain ⟨windows, cells, cutInto, -, members, rows⟩ := compareBy_drilled reached
    (fun _ => .refl _) (by decide) (by decide) (List.mem_singleton_self "country") (by decide) few
    succeeded
  obtain rfl := Request.windows_of_no_granularity rfl cutInto
  have sold : Cell.mk (some ⟨"country", "DE"⟩) 0 ∈ cells :=
    (members _ _).2 ⟨Nat.zero_lt_one, 0, _, .baseline, Request.pair?_wholeWindows.2 ⟨rfl, rfl⟩,
      sale 0 "DE" 2.0, List.mem_cons_self, rfl⟩
  obtain ⟨row, inRows, here, -, drilled⟩ := exists_of_forall₂ rows sold
  obtain ⟨part, succeededToo, place⟩ := drilled "DE" rfl _ reached Table.entries fun _ => .refl _
  obtain ⟨functions, windows, columns, cutInto, rows⟩ :=
    compareBy_ungrouped reached (fun _ => .refl _) rfl succeededToo
  obtain rfl := Except.ok.inj columns
  obtain rfl := Request.windows_of_no_granularity rfl cutInto
  obtain ⟨alone, _, ⟨hereToo, reads⟩, others, one⟩ := List.forall₂_cons_left_iff.1 rows
  obtain rfl := List.forall₂_nil_left_iff.1 others
  obtain rfl : alone = { row with dimension := none } := Option.some.inj (by rwa [one] at place)
  refine ⟨c, part, succeeded, succeededToo, row, inRows, here.dimension, ?_, one⟩
  have metrics := reads.getElem?_metrics (i := 0) rfl
  rw [hereToo.interval_wholeWindows, hereToo.interval_wholeWindows] at metrics
  exact metrics

end Store

end PeriodCompare
