import PeriodCompare.Proofs.Parts
import PeriodCompare.Proofs.Records
import PeriodCompare.Proofs.Refusal

set_option autoImplicit false

namespace PeriodCompare

namespace Tiles

variable {start finish : Instant} {buckets : List Interval}

theorem le (tiles : Tiles start buckets finish) : start ≤ finish := by
  induction tiles with
  | nil t => simp [Instant.le_def]
  | @cons i _ _ _ ih =>
    have ordered := i.start_lt_finish
    simp only [Instant.le_def, Instant.lt_def] at *
    omega

theorem countP_contains (tiles : Tiles start buckets finish) (t : Instant) :
    buckets.countP (·.contains t) = if start ≤ t ∧ t < finish then 1 else 0 := by
  induction tiles with
  | nil u =>
    have outside : ¬ (u ≤ t ∧ t < u) := by
      simp only [Instant.le_def, Instant.lt_def]
      omega
    rw [if_neg outside, List.countP_nil]
  | @cons i rest finish later ih =>
    have ordered := i.start_lt_finish
    have bound := later.le
    rw [List.countP_cons, ih]
    simp only [Interval.contains, decide_eq_true_eq, Instant.le_def, Instant.lt_def] at *
    split_ifs <;> omega

end Tiles

namespace Request

variable {r : Request} {topK : Nat} {functions : List MetricFunction} {windows : Windows}
  {queries : List Query}

theorem tiles_windows (cutInto : r.windows = .ok windows) (window : Window) :
    Tiles (r.interval window).start ((windows.baseline.zip windows.current).map window.pick)
      (r.interval window).finish := by
  have aligned : windows.baseline.length = windows.current.length := windows_aligned cutInto
  obtain ⟨cutBaseline, cutCurrent, -⟩ := windows_eq_ok.1 cutInto
  cases window with
  | baseline =>
    have sides : (windows.baseline.zip windows.current).map (Window.pick .baseline) =
        windows.baseline := List.map_fst_zip aligned.le
    rw [sides]
    exact tiles_bucketsBetween cutBaseline
  | current =>
    have sides : (windows.baseline.zip windows.current).map (Window.pick .current) =
        windows.current := List.map_snd_zip aligned.ge
    rw [sides]
    exact tiles_bucketsBetween cutCurrent

theorem filter_queries (distinct : r.groupBy.Nodup) (bucket : Nat) (window : Window)
    {dimension : Option String} (declared : dimension ∈ r.breakdowns) :
    (r.breakdowns.flatMap fun name => Window.all.map (r.query topK functions bucket name)).filter
        (fun q => q.window = window ∧ q.groupBy = dimension) =
      [r.query topK functions bucket dimension window] := by
  have asked (name : Option String) :
      (Window.all.map (r.query topK functions bucket name)).filter
          (fun q => q.window = window ∧ q.groupBy = dimension) =
        if name = dimension then [r.query topK functions bucket dimension window] else [] := by
    by_cases same : name = dimension <;> cases window <;> simp [Window.all, same]
  have kept (names : List (Option String)) :
      (names.flatMap fun name =>
          if name = dimension then [r.query topK functions bucket dimension window] else []) =
        (names.filter (· = dimension)).map fun _ =>
          r.query topK functions bucket dimension window := by
    induction names with
    | nil => rfl
    | cons name rest ih => by_cases same : name = dimension <;> simp [List.flatMap_cons, same, ih]
  have once : r.breakdowns.filter (· = dimension) = [dimension] := by
    rw [List.filter_eq, List.count_eq_one_of_mem (nodup_breakdowns distinct) declared]
    rfl
  simp only [List.filter_flatMap, asked, kept, once, List.map_cons, List.map_nil]

theorem filter_bucketQueries (distinct : r.groupBy.Nodup)
    (batch : r.bucketQueries topK functions windows = .ok queries) (window : Window)
    {dimension : Option String} (declared : dimension ∈ r.breakdowns) :
    queries.filter (fun q => q.window = window ∧ q.groupBy = dimension) =
      (windows.baseline.zip windows.current).zipIdx.map fun (pair, bucket) =>
        (r.withWindows pair.1 pair.2).query topK functions bucket dimension window := by
  rw [bucketQueries_eq_ok batch, List.filter_flatMap, List.map_eq_flatMap]
  congr 1
  funext ⟨pair, bucket⟩
  exact (r.withWindows pair.1 pair.2).filter_queries distinct bucket window declared

theorem admits_iff (i : Interval) (record : Record) :
    r.Admits i record ↔ i.contains record.time = true ∧
      ∀ entry ∈ r.filters.entries, ∃ value ∈ entry.2,
        record.dimensions.get? entry.1 = some value := by
  simp [Admits, Interval.contains, and_assoc]

theorem countP_admits (cutInto : r.windows = .ok windows) (window : Window) (record : Record) :
    ((windows.baseline.zip windows.current).map window.pick).countP (r.Admits · record) =
      if r.Admits (r.interval window) record then 1 else 0 := by
  simp only [admits_iff]
  by_cases passes : ∀ entry ∈ r.filters.entries, ∃ value ∈ entry.2,
      record.dimensions.get? entry.1 = some value
  · simp only [eq_true passes, and_true, Bool.decide_eq_true]
    rw [(tiles_windows cutInto window).countP_contains]
    simp [Interval.contains]
  · simp only [eq_false passes, and_false, decide_false, if_false]
    exact List.countP_eq_zero.2 (by simp)

theorem isMatch_query_self (window : Window) (dimension : Option String) (record : Record) :
    record.isMatch (r.query topK functions 0 dimension window) =
      decide (r.Admits (r.interval window) record) := by
  let pair := (r.baseline, r.current)
  have whole : record.isMatch ((r.withWindows pair.1 pair.2).query topK functions 0 dimension
      window) = decide (r.Admits (window.pick pair) record) := record.isMatch_query
  cases window <;> exact whole

theorem countP_bucketQueries (distinct : r.groupBy.Nodup) (cutInto : r.windows = .ok windows)
    (batch : r.bucketQueries topK functions windows = .ok queries) (window : Window)
    {dimension : Option String} (declared : dimension ∈ r.breakdowns) (record : Record) :
    (queries.filter fun q => q.window = window ∧ q.groupBy = dimension).countP record.isMatch =
      if record.isMatch (r.query topK functions 0 dimension window) then 1 else 0 := by
  rw [filter_bucketQueries distinct batch window declared, isMatch_query_self, List.countP_map]
  simp only [Function.comp_def, record.isMatch_query, decide_eq_true_eq]
  rw [← countP_admits cutInto window record, List.countP_map,
    ← List.zipIdx_map_fst 0 (windows.baseline.zip windows.current), List.countP_map]
  simp only [Function.comp_def, List.zipIdx_map_fst]

theorem query_withWindows (pair : Interval × Interval) (bucket : Nat)
    (dimension : Option String) :
    (r.withWindows pair.1 pair.2).query topK functions bucket dimension = fun window =>
      { collection := r.collection, functions, filters := r.filters,
        start := (window.pick pair).start, finish := (window.pick pair).finish,
        groupBy := dimension, topK := dimension.map fun _ => topK, window, bucket } := by
  funext window
  cases dimension <;> cases window <;> rfl

end Request

namespace Service

variable {σ : Type} {s : Service σ} {r : Request} {functions : List MetricFunction}
  {windows : Windows} {queries : List Query}

theorem compareBy_partitions (distinct : r.groupBy.Nodup)
    (planned : s.bucketPlan r = .ok (functions, windows, queries)) :
    (∀ (order : Answers → List (Query × Answer)) (w : World σ), 0 < s.timeout.toNanos →
      (s.compareBy order w r).2.received =
        w.received ++ queries.filter fun q => (w.cached? q).isNone) ∧
    queries.Nodup ∧
    queries = ((windows.baseline.zip windows.current).zipIdx.flatMap fun (pair, bucket) =>
      r.breakdowns.flatMap fun dimension => Window.all.map fun window =>
        { collection := r.collection, functions, filters := r.filters,
          start := (window.pick pair).start, finish := (window.pick pair).finish,
          groupBy := dimension, topK := dimension.map fun _ => s.topK, window, bucket }) ∧
    ∀ window, ∀ dimension ∈ r.breakdowns, ∀ record : Record,
      (queries.filter fun q => q.window = window ∧ q.groupBy = dimension).countP record.isMatch =
        if record.isMatch (r.query s.topK functions 0 dimension window) then 1 else 0 := by
  obtain ⟨-, cutInto, batch⟩ := bucketPlan_eq_ok.1 planned
  have nodup := Request.nodup_bucketQueries distinct batch
  refine ⟨fun order w positive => ?_, nodup, ?_, fun window dimension declared record => ?_⟩
  · rw [compareBy, planned]
    exact World.received_run s.backend nodup positive _
  · rw [Request.bucketQueries_eq_ok batch]
    simp only [Request.query_withWindows]
  · exact Request.countP_bucketQueries distinct cutInto batch window declared record

-- On the edge between two buckets, as anywhere else.
theorem compareBy_partitions_halves :
    ["country", "city"].Nodup ∧ ∃ functions windows queries,
      (reporting []).bucketPlan (.halves ["country", "city"]) = .ok (functions, windows, queries) ∧
        queries.length = 8 ∧
        (queries.filter fun q => q.window = .baseline ∧ q.groupBy = some "city").countP
          (Record.isMatch ⟨.ofMillis 5, .empty, .empty⟩) = 1 := by
  have planned : (reporting []).bucketPlan (.halves ["country", "city"]) = _ :=
    bucketPlan_eq_ok.2 ⟨rfl, Request.windows_halves _, rfl⟩
  obtain ⟨-, -, -, counted⟩ := compareBy_partitions (by decide) planned
  exact ⟨by decide, _, _, _, planned, rfl, counted .baseline (some "city") (by decide) _⟩

end Service

end PeriodCompare
