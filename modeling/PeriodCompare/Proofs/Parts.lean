import PeriodCompare.Proofs.Assembly

set_option autoImplicit false

namespace PeriodCompare

def Request.part (r : Request) (pair : Interval × Interval) : Request :=
  (r.withWindows pair.1 pair.2).whole

def Call.part (r : Request) (pair : Interval × Interval) : Call :=
  if r.isGrouped then .breakdown (r.withWindows pair.1 pair.2)
  else .totals (r.withWindows pair.1 pair.2)

namespace Request

variable {r : Request} {topK : Nat} {functions : List MetricFunction} {windows : Windows}
  {respond : Query → Answer} {answers others : Answers} {order reorder : List (Query × Answer)}
  {pair : Interval × Interval} {queries : List Query}

theorem pair?_wholeWindows_part {bucket : Nat} {other : Interval × Interval} :
    (r.part pair).wholeWindows.pair? bucket = some other ↔ bucket = 0 ∧ pair = other :=
  pair?_wholeWindows

theorem cellRow?_part (blind : ∀ q bucket, respond { q with bucket := bucket } = respond q)
    (d : Option Dimension) (bucket : Nat) (window : Window) :
    (r.part pair).cellRow? topK functions respond pair ⟨d, 0⟩ window =
      r.cellRow? topK functions respond pair ⟨d, bucket⟩ window := by
  have same : (r.part pair).cellQuery topK functions pair ⟨d, 0⟩ window =
      { r.cellQuery topK functions pair ⟨d, bucket⟩ window with bucket := 0 } := by
    cases d <;> rfl
  rw [cellRow?, same, blind]
  rfl

theorem rawRow_part (blind : ∀ q bucket, respond { q with bucket := bucket } = respond q)
    (d : Option Dimension) (bucket : Nat) :
    (r.part pair).rawRow topK functions respond pair ⟨d, 0⟩ =
      r.rawRow topK functions respond pair ⟨d, bucket⟩ := by
  simp only [rawRow, rawValue, cellRow?_part blind d bucket]

theorem Answered.mem_cells_part (answered : r.Answered topK functions windows answers order)
    (answeredPart : (r.part pair).Answered topK functions (r.part pair).wholeWindows others reorder)
    (responds : ∀ q a, answers.get? q = some a → a = respond q)
    (respondsPart : ∀ q a, others.get? q = some a → a = respond q)
    (blind : ∀ q bucket, respond { q with bucket := bucket } = respond q) {bucket : Nat}
    (found : windows.pair? bucket = some pair) {cell : Cell}
    (member : cell ∈ (r.part pair).cells reorder 1) :
    cell.bucket = 0 ∧ ⟨cell.dimension, bucket⟩ ∈ r.cells order windows.size := by
  have inside := Windows.lt_size_of_pair? found
  cases grouped : r.isGrouped with
  | false =>
    rw [cells_of_ungrouped (r := r.part pair) grouped] at member
    obtain rfl : cell = ⟨none, 0⟩ := by simpa using member
    rw [cells_of_ungrouped grouped]
    exact ⟨rfl, List.mem_map_of_mem (List.mem_range.2 inside)⟩
  | true =>
    obtain ⟨⟨d, seen, dimension⟩, zero⟩ := (answeredPart.mem_cells grouped cell).1 member
    obtain ⟨declared, _, _, window, only, shown⟩ :=
      (answeredPart.seen_iff_cellRow? grouped respondsPart d).1 seen
    obtain ⟨rfl, rfl⟩ := pair?_wholeWindows_part.1 only
    rw [cellRow?_part blind (some d) bucket] at shown
    refine ⟨Nat.lt_one_iff.1 zero, (answered.mem_cells grouped _).2 ⟨⟨d, ?_, dimension⟩, inside⟩⟩
    exact (answered.seen_iff_cellRow? grouped responds d).2
      ⟨declared, bucket, pair, window, found, shown⟩

theorem exists_queries_part (pair : Interval × Interval) (cut : r.windows = .ok windows)
    (batch : r.bucketQueries topK functions windows = .ok queries) :
    ∃ queries, (r.part pair).queries topK functions 0 = .ok queries := by
  simp only [bucketQueries, Checked.bind_eq_ok] at batch
  obtain ⟨perBucket, each, -⟩ := batch
  obtain ⟨first, found⟩ := Windows.exists_pair? (windows_aligned cut) (windows_size_pos cut)
  obtain ⟨_, asked⟩ := Checked.exists_of_mapM each (Windows.mem_zipIdx_zip.2 found)
  cases needed : r.needMetrics functions with
  | error e =>
    have refused : (r.withWindows first.1 first.2).needMetrics functions = .error e := needed
    simp [Request.queries, groupQueries, totalQueries, refused] at asked
  | ok u =>
    have accepted : (r.part pair).needMetrics functions = .ok u := needed
    cases grouped : (r.part pair).isGrouped <;>
      simp [Request.queries, grouped, groupQueries, totalQueries, accepted, pure, Except.pure]

end Request

namespace Call

variable {r : Request} {pair : Interval × Interval}

@[simp] theorem scope_part : (Call.part r pair).scope = r.part pair := by
  cases grouped : r.isGrouped with
  | true => simp [Call.part, grouped, scope, Request.part]
  | false =>
    have none : r.groupBy = [] := by simpa [Request.isGrouped] using grouped
    simp [Call.part, grouped, scope, Request.part, Request.ungrouped, Request.whole,
      Request.withWindows, none]

@[simp] theorem precheck_part : (Call.part r pair).precheck = .ok () := by
  have same : (r.withWindows pair.1 pair.2).isGrouped = r.isGrouped := rfl
  cases grouped : r.isGrouped <;> simp [Call.part, grouped, precheck, same]

end Call

/-- Every query is answered at once, in time, and without regard to buckets: the answer does not
depend on the number of the bucket, and its rows name none. -/
structure Service.Oblivious {σ : Type} (s : Service σ) (respond : Query → Answer) : Prop where
  follows : s.backend.Follows fun q => .atOnce (respond q)
  positive : 0 < s.timeout.toNanos
  blind : ∀ q bucket, respond { q with bucket := bucket } = respond q
  unstamped : ∀ q, ∀ row ∈ (respond q).rows, row.bucket = none

namespace Service

variable {σ : Type} {s : Service σ} {w : World σ} {r : Request} {functions : List MetricFunction}
  {windows : Windows} {queries : List Query} {respond : Query → Answer}
  {order : Answers → List (Query × Answer)} {pair : Interval × Interval}

def responses (respond : Query → Answer) (queries : List Query) : Answers :=
  .ofList (queries.map fun q => (q, respond q))

theorem eq_of_get?_responses {q : Query} {a : Answer}
    (found : (responses respond queries).get? q = some a) : a = respond q := by
  have member := (Table.mem_entries_iff _ (Table.nodup_keys_ofList _) q a).2 found
  exact (Table.mem_entries_ofList_map.1 member).2

theorem answered_responses (planned : s.bucketPlan r = .ok (functions, windows, queries))
    {pairs : List (Query × Answer)} (perm : pairs.Perm (responses respond queries).entries) :
    r.Answered s.topK functions windows (responses respond queries) pairs := by
  obtain ⟨-, cut, batch⟩ := bucketPlan_eq_ok.1 planned
  refine ⟨cut, ⟨queries, batch, fun q => ?_⟩, Table.nodup_keys_ofList _, perm⟩
  simp [responses, Table.mem_keys_ofList]

theorem ownBuckets_responses (unstamped : ∀ q, ∀ row ∈ (respond q).rows, row.bucket = none)
    {pairs : List (Query × Answer)} (perm : pairs.Perm (responses respond queries).entries) :
    OwnBuckets pairs :=
  fun pair member => ownBuckets_of_unstamped queries unstamped pair (perm.mem_iff.1 member)

theorem assemble_responses (planned : s.bucketPlan r = .ok (functions, windows, queries))
    (unstamped : ∀ q, ∀ row ∈ (respond q).rows, row.bucket = none)
    {pairs : List (Query × Answer)} (perm : pairs.Perm (responses respond queries).entries)
    {rows : List Row} :
    s.assemble r.layout r windows functions pairs = .ok rows ↔
      List.Forall₂ (s.Completes r functions windows respond) (r.cells pairs windows.size) rows :=
  assemble_eq_ok (answered_responses planned perm) (ownBuckets_responses unstamped perm)
    fun _ _ => eq_of_get?_responses

theorem seen_responses {respond : Query → Answer} {d : Dimension} :
    Seen (responses respond queries).entries d ↔ ∃ q ∈ queries, q.groupBy = some d.name ∧
      ∃ row ∈ (respond q).rows, row.dimensions.head? = some d.value := by
  simp only [Seen, responses, Prod.exists, Table.mem_entries_ofList_map, and_assoc]
  constructor
  · intro seen
    obtain ⟨q, _, asked, rfl, shown⟩ := seen
    exact ⟨q, asked, shown⟩
  · intro seen
    obtain ⟨q, asked, shown⟩ := seen
    exact ⟨q, _, asked, rfl, shown⟩

theorem answerBy_atOnce (oblivious : s.Oblivious respond) (reached : w.Reached s.backend) {c : Call}
    (planned : s.plan c = .ok (functions, windows, queries)) :
    (s.answerBy order w c).1 =
      (s.assemble c.scope.layout c.scope windows functions (order (responses respond queries)) >>=
        fun rows => c.reply rows) := by
  have awaited : (c.await s.timeout (queries.map fun q => (Course.atOnce (respond q)).flight q)).2 =
      .ok (queries.map fun q => (q, respond q)) := by
    cases c with
    | comparison r => exact awaitInTurn_atOnce
    | totals r => exact awaitTogether_atOnce oblivious.positive
    | breakdown r => exact awaitTogether_atOnce oblivious.positive
  have prompt (q : Query) := Course.prompt_atOnce (respond q)
  have flights :=
    (reached.steady oblivious.follows prompt).startAll oblivious.follows prompt queries
  have ran : (w.run s.backend s.timeout (c.await s.timeout) queries).1 =
      .ok (responses respond queries) := by
    cases queries with
    | nil => rfl
    | cons q rest =>
      simp only [World.run, Nat.ne_of_gt oblivious.positive, if_false, flights, awaited]
      rfl
  exact fst_answerBy planned ran

theorem exists_plan_part (pair : Interval × Interval)
    (planned : s.bucketPlan r = .ok (functions, windows, queries)) :
    ∃ queries, s.plan (.part r pair) = .ok (functions, (r.part pair).wholeWindows, queries) := by
  obtain ⟨columns, cut, batch⟩ := bucketPlan_eq_ok.1 planned
  obtain ⟨queriesPart, planned⟩ := Request.exists_queries_part pair cut batch
  refine ⟨queriesPart, ?_⟩
  have whole : (r.part pair).granularity = none := rfl
  have columnsPart : s.evaluator.columns (r.part pair).metrics = .ok functions := columns
  simp only [plan, Call.precheck_part, Call.scope_part, Checked.ok_bind,
    bucketPlan_of_granularity_eq_none whole, columnsPart, planned]
  rfl

theorem Completes.unique {cell : Cell} {row other : Row}
    (first : s.Completes r functions windows respond cell row)
    (second : s.Completes r functions windows respond cell other) : row = other := by
  obtain ⟨pair, found, completed⟩ := first
  obtain ⟨_, foundToo, completedToo⟩ := second
  obtain rfl := Option.some.inj (found.symm.trans foundToo)
  exact Except.ok.inj (completed.symm.trans completedToo)

theorem Completes.at {cell : Cell} {row : Row}
    (completes : s.Completes r functions windows respond cell row) : row.At windows cell := by
  obtain ⟨pair, found, completed⟩ := completes
  have extended := Evaluator.extends_of_complete completed
  refine ⟨?_, extended.dimension⟩
  rw [found, extended.baseline, extended.current]
  rfl

theorem Completes.reads {cell : Cell} {row : Row}
    (completes : s.Completes r functions windows respond cell row) :
    row.Reads functions fun window i _ =>
      r.rawValue s.topK functions respond (row.baseline, row.current) cell i window := by
  obtain ⟨pair, -, completed⟩ := completes
  have extended := Evaluator.extends_of_complete completed
  have intervals : (row.baseline, row.current) = pair := by
    rw [extended.baseline, extended.current]
    rfl
  rw [intervals]
  intro i f column
  have raw : (r.rawRow s.topK functions respond pair cell).metrics[i]? = some ⟨f.metric,
      r.rawValue s.topK functions respond pair cell i .baseline,
      r.rawValue s.topK functions respond pair cell i .current⟩ := by
    simp [Request.rawRow, column]
  refine ⟨_, extended.metric raw, rfl, fun window => ?_⟩
  cases window <;> rfl

theorem completes_part (blind : ∀ q bucket, respond { q with bucket := bucket } = respond q)
    {bucket : Nat} (found : windows.pair? bucket = some pair) (d : Option Dimension) (row : Row) :
    s.Completes (r.part pair) functions (r.part pair).wholeWindows respond ⟨d, 0⟩ row ↔
      s.Completes r functions windows respond ⟨d, bucket⟩ row := by
  have metrics : (r.part pair).metrics = r.metrics := rfl
  simp only [Completes, Request.pair?_wholeWindows_part, true_and, exists_eq_left', found,
    Option.some.injEq, Request.rawRow_part blind d bucket, metrics]

theorem exists_part (oblivious : s.Oblivious respond)
    (planned : s.bucketPlan r = .ok (functions, windows, queries)) {pairs : List (Query × Answer)}
    (perm : pairs.Perm (responses respond queries).entries) {rows : List Row}
    (assembled : s.assemble r.layout r windows functions pairs = .ok rows) {bucket : Nat}
    (found : windows.pair? bucket = some pair) :
    ∃ others queriesPart,
      (∀ v, World.Reached s.backend v → ∀ reorder : Answers → List (Query × Answer),
        (∀ answers, (reorder answers).Perm answers.entries) →
          (s.answerBy reorder v (.part r pair)).1 = (Call.part r pair).reply others) ∧
      s.plan (.part r pair) = .ok (functions, (r.part pair).wholeWindows, queriesPart) ∧
      List.Forall₂
        (fun cell row => ⟨cell.dimension, bucket⟩ ∈ r.cells pairs windows.size ∧
          s.Completes r functions windows respond ⟨cell.dimension, bucket⟩ row)
        ((r.part pair).cells (responses respond queriesPart).entries 1) others := by
  obtain ⟨queriesPart, plannedPart⟩ := exists_plan_part pair planned
  have bucketPlanned := bucketPlan_of_plan plannedPart
  rw [Call.scope_part] at bucketPlanned
  have answered := answered_responses planned perm
  have answeredPart := answered_responses bucketPlanned
    (List.Perm.refl (responses respond queriesPart).entries)
  have own : OwnBuckets (responses respond queriesPart).entries :=
    ownBuckets_responses oblivious.unstamped (.refl _)
  have responds {asked : List Query} (q : Query) (a : Answer)
      (found : (responses respond asked).get? q = some a) : a = respond q :=
    eq_of_get?_responses found
  have completes := (assemble_responses planned oblivious.unstamped perm).1 assembled
  have inCells (cell : Cell)
      (member : cell ∈ (r.part pair).cells (responses respond queriesPart).entries 1) :=
    answered.mem_cells_part answeredPart responds responds oblivious.blind found member
  -- The whole has a row at every cell of the part, so no derived metric of the part can fail.
  have each : ∀ cell ∈ (r.part pair).cells (responses respond queriesPart).entries 1, ∃ row,
      s.Completes (r.part pair) functions (r.part pair).wholeWindows respond cell row := by
    rintro ⟨d, other⟩ member
    obtain ⟨rfl, inAll⟩ := inCells _ member
    obtain ⟨row, -, completed⟩ := exists_of_forall₂ completes inAll
    exact ⟨row, (completes_part oblivious.blind found d row).2 completed⟩
  obtain ⟨others, completesPart⟩ := exists_forall₂ each
  have assembledPart :=
    (assemble_responses bucketPlanned oblivious.unstamped (.refl _)).2 completesPart
  refine ⟨others, queriesPart, fun v reached reorder reorders => ?_, plannedPart, ?_⟩
  · have reordered := answered_responses bucketPlanned (reorders (responses respond queriesPart))
    rw [answerBy_atOnce oblivious reached plannedPart, Call.scope_part,
      ← assemble_congr answeredPart reordered own, assembledPart, Checked.ok_bind]
  · refine (forall₂_mem completesPart).imp ?_
    rintro ⟨d, other⟩ row ⟨member, completed⟩
    obtain ⟨rfl, inAll⟩ := inCells _ member
    exact ⟨inAll, (completes_part oblivious.blind found d row).1 completed⟩

theorem rows_of_ungrouped (oblivious : s.Oblivious respond)
    (planned : s.bucketPlan r = .ok (functions, windows, queries)) {pairs : List (Query × Answer)}
    (perm : pairs.Perm (responses respond queries).entries) {rows : List Row}
    (assembled : s.assemble r.layout r windows functions pairs = .ok rows)
    (ungrouped : r.isGrouped = false) :
    rows.length = windows.size ∧ ∀ bucket pair, windows.pair? bucket = some pair →
      ∃ row, rows[bucket]? = some row ∧ ∀ v, World.Reached s.backend v →
        ∀ reorder : Answers → List (Query × Answer),
          (∀ answers, (reorder answers).Perm answers.entries) →
            (s.answerBy reorder v (.totals (r.withWindows pair.1 pair.2))).1 = .ok (.row row) := by
  have completes := (assemble_responses planned oblivious.unstamped perm).1 assembled
  rw [Request.cells_of_ungrouped ungrouped] at completes
  have size : rows.length = windows.size := by simpa using completes.length_eq.symm
  refine ⟨size, fun bucket pair found => ?_⟩
  have inRows : bucket < rows.length := size.symm ▸ Windows.lt_size_of_pair? found
  have completed := completes.get (by simpa [size] using inRows) inRows
  simp only [List.get_eq_getElem, List.getElem_map, List.getElem_range] at completed
  obtain ⟨others, queriesPart, replies, -, made⟩ :=
    exists_part oblivious planned perm assembled found
  rw [Request.cells_of_ungrouped (r := r.part pair) ungrouped] at made
  obtain ⟨part, rfl⟩ : ∃ part, others = [part] := List.length_eq_one_iff.1 made.length_eq.symm
  obtain ⟨-, completedPart⟩ := (List.forall₂_cons.1 made).1
  obtain rfl := completedPart.unique completed
  refine ⟨_, List.getElem?_eq_getElem inRows, fun v reached reorder reorders => ?_⟩
  have reply := replies v reached reorder reorders
  rwa [Call.part, if_neg (by simp [ungrouped])] at reply

structure IsPart (s : Service σ) (r : Request) (functions : List MetricFunction)
    (windows : Windows) (respond : Query → Answer) (cells : List Cell) (bucket : Nat)
    (others : List Row) : Prop where
  inCells : ∀ part ∈ others, ⟨part.dimension, bucket⟩ ∈ cells
  completes : ∀ part ∈ others,
    s.Completes r functions windows respond ⟨part.dimension, bucket⟩ part
  shown : ∀ pair d window, windows.pair? bucket = some pair → d.name ∈ r.groupBy →
    (r.cellRow? s.topK functions respond pair ⟨some d, bucket⟩ window).isSome →
      ∃ part ∈ others, part.dimension = some d

theorem exists_isPart (oblivious : s.Oblivious respond)
    (planned : s.bucketPlan r = .ok (functions, windows, queries)) {pairs : List (Query × Answer)}
    (perm : pairs.Perm (responses respond queries).entries) {rows : List Row}
    (assembled : s.assemble r.layout r windows functions pairs = .ok rows)
    (grouped : r.isGrouped = true) (bucket : Nat) :
    ∃ others : List Row,
      (∀ pair, windows.pair? bucket = some pair → ∀ v, World.Reached s.backend v →
        ∀ reorder : Answers → List (Query × Answer),
          (∀ answers, (reorder answers).Perm answers.entries) →
            (s.answerBy reorder v (.breakdown (r.withWindows pair.1 pair.2))).1 =
              .ok (.rows others)) ∧
      s.IsPart r functions windows respond (r.cells pairs windows.size) bucket others := by
  cases found : windows.pair? bucket with
  | none => exact ⟨[], by simp, by simp, by simp, by simp [found]⟩
  | some pair =>
    obtain ⟨others, queriesPart, replies, plannedPart, made⟩ :=
      exists_part oblivious planned perm assembled found
    have partOf (part : Row) (member : part ∈ others) :
        ⟨part.dimension, bucket⟩ ∈ r.cells pairs windows.size ∧
          s.Completes r functions windows respond ⟨part.dimension, bucket⟩ part := by
      obtain ⟨cell, -, inCells, completed⟩ := exists_of_forall₂ made.flip member
      rw [completed.at.dimension]
      exact ⟨inCells, completed⟩
    refine ⟨others, ?_, fun part member => (partOf part member).1,
      fun part member => (partOf part member).2, ?_⟩
    · rintro _ same v reached reorder reorders
      obtain rfl := Option.some.inj same
      have reply := replies v reached reorder reorders
      rwa [Call.part, if_pos grouped] at reply
    · rintro _ d window same declared hasRow
      obtain rfl := Option.some.inj (found.symm.trans same)
      have bucketPlanned := bucketPlan_of_plan plannedPart
      rw [Call.scope_part] at bucketPlanned
      have answeredPart := answered_responses bucketPlanned
        (List.Perm.refl (responses respond queriesPart).entries)
      rw [← Request.cellRow?_part oblivious.blind] at hasRow
      have seen := (answeredPart.seen_iff_cellRow? grouped (fun _ _ => eq_of_get?_responses) d).2
        ⟨declared, 0, pair, window, Request.pair?_wholeWindows_part.2 ⟨rfl, rfl⟩, hasRow⟩
      obtain ⟨part, member, -, completed⟩ := exists_of_forall₂ made
        ((answeredPart.mem_cells grouped ⟨some d, 0⟩).2 ⟨⟨d, seen, rfl⟩, Nat.one_pos⟩)
      exact ⟨part, member, completed.at.dimension⟩

end Service

/-- The row of a cell is the row for its dimension value that the bucket has on its own. Where the
bucket has none, it is a row of zeros with the metrics that derive from zeros. -/
structure Row.Refines (complete : Row → Checked Row) (functions : List MetricFunction)
    (windows : Windows) (parts : Nat → List Row) (cell : Cell) (row : Row) : Prop
    extends Row.At windows cell row where
  present : ∀ part ∈ parts cell.bucket, part.dimension = cell.dimension → row = part
  absent : (∀ part ∈ parts cell.bucket, part.dimension ≠ cell.dimension) →
    complete ⟨row.baseline, row.current, cell.dimension,
      functions.map fun f => ⟨f.metric, 0.0, 0.0⟩⟩ = .ok row

theorem Request.rawRow_of_cellRow? {r : Request} {topK : Nat} {functions : List MetricFunction}
    {respond : Query → Answer} {pair : Interval × Interval} {cell : Cell}
    (nothing : ∀ window, r.cellRow? topK functions respond pair cell window = none) :
    r.rawRow topK functions respond pair cell =
      ⟨pair.1, pair.2, cell.dimension, functions.map fun f => ⟨f.metric, 0.0, 0.0⟩⟩ := by
  rw [rawRow, map_zipIdx_eq]
  intro f i _
  simp [rawValue, nothing]

namespace Service

variable {σ : Type} {s : Service σ} {w : World σ} {r : Request} {functions : List MetricFunction}
  {windows : Windows} {queries : List Query} {respond : Query → Answer} {answers : Answers}
  {pairs : List (Query × Answer)} {parts : Nat → List Row}

theorem mem_cells_iff_part (answered : r.Answered s.topK functions windows answers pairs)
    (responds : ∀ q a, answers.get? q = some a → a = respond q) (grouped : r.isGrouped = true)
    (isPart : ∀ bucket,
      s.IsPart r functions windows respond (r.cells pairs windows.size) bucket (parts bucket))
    (cell : Cell) :
    cell ∈ r.cells pairs windows.size ↔ cell.bucket < windows.size ∧
      ∃ bucket < windows.size, ∃ part ∈ parts bucket, part.dimension = cell.dimension := by
  rw [answered.mem_cells grouped, and_comm]
  refine and_congr_right fun inside => ⟨?_, ?_⟩
  · rintro ⟨d, inAnswers, dimension⟩
    obtain ⟨declared, bucket, pair, window, found, hasRow⟩ :=
      (answered.seen_iff_cellRow? grouped responds d).1 inAnswers
    obtain ⟨part, member, same⟩ := (isPart bucket).shown pair d window found declared hasRow
    exact ⟨bucket, Windows.lt_size_of_pair? found, part, member, same.trans dimension.symm⟩
  · rintro ⟨bucket, -, part, member, same⟩
    obtain ⟨⟨d, inAnswers, dimension⟩, -⟩ :=
      (answered.mem_cells grouped _).1 ((isPart bucket).inCells part member)
    exact ⟨d, inAnswers, same.symm.trans dimension⟩

theorem Completes.refines {cell : Cell} {row : Row}
    (completes : s.Completes r functions windows respond cell row)
    (isPart : s.IsPart r functions windows respond (r.cells pairs windows.size) cell.bucket
      (parts cell.bucket))
    (declared : ∃ d : Dimension, d.name ∈ r.groupBy ∧ some d = cell.dimension) :
    row.Refines (s.evaluator.complete r.metrics functions) functions windows parts cell where
  toAt := completes.at
  present := by
    intro part member same
    have completesPart := isPart.completes part member
    rw [same] at completesPart
    exact completes.unique completesPart
  absent := by
    intro missing
    obtain ⟨d, declared, dimension⟩ := declared
    obtain ⟨pair, found, completed⟩ := completes
    -- A row for the cell in either window would put its dimension value into the breakdown.
    have nothing (window : Window) :
        r.cellRow? s.topK functions respond pair cell window = none := by
      rw [← Option.not_isSome_iff_eq_none]
      intro hasRow
      have atCell : (⟨some d, cell.bucket⟩ : Cell) = cell := by rw [dimension]
      obtain ⟨part, member, same⟩ := isPart.shown pair d window found declared (atCell ▸ hasRow)
      exact missing part member (same.trans dimension)
    have extended := Evaluator.extends_of_complete completed
    rw [Request.rawRow_of_cellRow? nothing] at completed
    rw [extended.baseline, extended.current]
    exact completed

theorem rows_of_grouped (oblivious : s.Oblivious respond)
    (planned : s.bucketPlan r = .ok (functions, windows, queries)) {pairs : List (Query × Answer)}
    (perm : pairs.Perm (responses respond queries).entries) {rows : List Row}
    (assembled : s.assemble r.layout r windows functions pairs = .ok rows)
    (grouped : r.isGrouped = true) :
    ∃ (parts : Nat → List Row) (cells : List Cell),
      (∀ bucket pair, windows.pair? bucket = some pair → ∀ v, World.Reached s.backend v →
        ∀ reorder : Answers → List (Query × Answer),
          (∀ answers, (reorder answers).Perm answers.entries) →
            (s.answerBy reorder v (.breakdown (r.withWindows pair.1 pair.2))).1 =
              .ok (.rows (parts bucket))) ∧
      cells.Pairwise (Cell.Before r.groupBy) ∧
      (∀ cell, cell ∈ cells ↔ cell.bucket < windows.size ∧
        ∃ bucket < windows.size, ∃ part ∈ parts bucket, part.dimension = cell.dimension) ∧
      List.Forall₂
        (Row.Refines (s.evaluator.complete r.metrics functions) functions windows parts) cells
        rows ∧
      ∀ bucket < windows.size, ∀ part ∈ parts bucket, part ∈ rows := by
  have answered := answered_responses planned perm
  have responds (q : Query) (a : Answer) (found : (responses respond queries).get? q = some a) :
      a = respond q :=
    eq_of_get?_responses found
  have completes := (assemble_responses planned oblivious.unstamped perm).1 assembled
  choose parts replies isPart using exists_isPart oblivious planned perm assembled grouped
  refine ⟨parts, r.cells pairs windows.size, replies, answered.pairwise_cells,
    mem_cells_iff_part answered responds grouped isPart, ?_, ?_⟩
  · refine (forall₂_mem completes).imp ?_
    rintro cell row ⟨inCells, completed⟩
    obtain ⟨⟨d, seen, dimension⟩, -⟩ := (answered.mem_cells grouped cell).1 inCells
    exact completed.refines (isPart cell.bucket)
      ⟨d, answered.seen_declared grouped seen, dimension.symm⟩
  · intro bucket _ part member
    obtain ⟨row, inRows, completed⟩ :=
      exists_of_forall₂ completes ((isPart bucket).inCells part member)
    obtain rfl := ((isPart bucket).completes part member).unique completed
    exact inRows

/-- A comparison by buckets gives, bucket by bucket, what comparisons of the buckets as whole
windows give. -/
theorem comparison_by_parts (oblivious : s.Oblivious respond) (reached : w.Reached s.backend)
    {order : Answers → List (Query × Answer)}
    (orders : ∀ answers, (order answers).Perm answers.entries) {c : Comparison}
    (succeeded : (s.answerBy order w (.comparison r)).1 = .ok (.comparison c)) :
    ∃ functions windows, s.evaluator.columns r.metrics = .ok functions ∧
      r.windows = .ok windows ∧
      (r.isGrouped = false → c.rows.length = windows.size ∧
        ∀ bucket pair, windows.pair? bucket = some pair →
          ∃ row, c.rows[bucket]? = some row ∧ ∀ v, World.Reached s.backend v →
            ∀ reorder : Answers → List (Query × Answer),
              (∀ answers, (reorder answers).Perm answers.entries) →
                (s.answerBy reorder v (.totals (r.withWindows pair.1 pair.2))).1 = .ok (.row row)) ∧
      (r.isGrouped = true → ∃ (parts : Nat → List Row) (cells : List Cell),
        (∀ bucket pair, windows.pair? bucket = some pair → ∀ v, World.Reached s.backend v →
          ∀ reorder : Answers → List (Query × Answer),
            (∀ answers, (reorder answers).Perm answers.entries) →
              (s.answerBy reorder v (.breakdown (r.withWindows pair.1 pair.2))).1 =
                .ok (.rows (parts bucket))) ∧
        cells.Pairwise (Cell.Before r.groupBy) ∧
        (∀ cell, cell ∈ cells ↔ cell.bucket < windows.size ∧
          ∃ bucket < windows.size, ∃ part ∈ parts bucket, part.dimension = cell.dimension) ∧
        List.Forall₂
          (Row.Refines (s.evaluator.complete r.metrics functions) functions windows parts) cells
          c.rows ∧
        ∀ bucket < windows.size, ∀ part ∈ parts bucket, part ∈ c.rows) := by
  cases planned : s.plan (.comparison r) with
  | error e => simp [answerBy, planned] at succeeded
  | ok plan =>
    obtain ⟨functions, windows, queries⟩ := plan
    rw [answerBy_atOnce oblivious reached planned, Checked.bind_eq_ok] at succeeded
    obtain ⟨rows, assembled, same⟩ := succeeded
    obtain rfl : (⟨rows⟩ : Comparison) = c := by simpa [Call.reply] using same
    have bucketPlanned := bucketPlan_of_plan planned
    obtain ⟨columns, cut, -⟩ := bucketPlan_eq_ok.1 bucketPlanned
    exact ⟨functions, windows, columns, cut,
      rows_of_ungrouped oblivious bucketPlanned (orders _) assembled,
      rows_of_grouped oblivious bucketPlanned (orders _) assembled⟩

end Service

def Request.halves (groupBy : List String) : Request :=
  { Request.orderTotals groupBy with granularity := some ⟨5, .milliseconds⟩ }

theorem cut_cons {step : Nat} (pos : 0 < step) {start next finish : Instant}
    (ordered : start < finish) (later : start < next)
    (ends : (start.shift step).earlier finish = next) :
    cut step pos start finish = ⟨start, next, later⟩ :: cut step pos next finish := by
  subst ends
  rw [cut, dif_pos ordered]

theorem cut_self {step : Nat} (pos : 0 < step) (finish : Instant) :
    cut step pos finish finish = [] := by
  have ended : ¬finish < finish := Int.lt_irrefl finish.millis
  rw [cut, dif_neg ended]

theorem Request.windows_halves (groupBy : List String) : (Request.halves groupBy).windows =
    .ok ⟨[⟨.ofMillis 0, .ofMillis 5, by decide⟩, ⟨.ofMillis 5, .ofMillis 10, by decide⟩],
      [⟨.ofMillis 10, .ofMillis 15, by decide⟩, ⟨.ofMillis 15, .ofMillis 20, by decide⟩]⟩ := by
  have halved {start middle finish : Instant} (ordered : start < finish)
      (before : start < middle) (after : middle < finish)
      (first : (start.shift 5).earlier finish = middle)
      (last : (middle.shift 5).earlier finish = finish) :
      cut 5 (by decide) start finish = [⟨start, middle, before⟩, ⟨middle, finish, after⟩] := by
    rw [cut_cons _ ordered before first, cut_cons _ after after last, cut_self]
  have baseline : bucketsBetween (halves groupBy).granularity (.ofMillis 0) (.ofMillis 10) =
      .ok [⟨.ofMillis 0, .ofMillis 5, by decide⟩, ⟨.ofMillis 5, .ofMillis 10, by decide⟩] :=
    congrArg Except.ok (halved (by decide) (by decide) (by decide) (by decide) (by decide))
  have current : bucketsBetween (halves groupBy).granularity (.ofMillis 10) (.ofMillis 20) =
      .ok [⟨.ofMillis 10, .ofMillis 15, by decide⟩, ⟨.ofMillis 15, .ofMillis 20, by decide⟩] :=
    congrArg Except.ok (halved (by decide) (by decide) (by decide) (by decide) (by decide))
  simp only [windows, Checked.bind_eq_ok]
  exact ⟨_, baseline, _, current, rfl⟩

namespace Service

def regional (q : Query) : Answer :=
  ⟨q.functions, q.groupBy.toList, [⟨none, [if q.start.millis < 5 then "DE" else "AT"], [1.0]⟩]⟩

def regionalService : Service Unit where
  backend := .pure fun q => .atOnce (regional q)
  evaluator := .naming
  timeout := .second
  topK := 1

theorem exists_row_regional {w : World Unit} (reached : w.Reached regionalService.backend)
    {c : Comparison}
    (succeeded : (regionalService.compareBy Table.entries w (.halves ["country"])).1 = .ok c) :
    ∃ row ∈ c.rows, row.dimension = some ⟨"country", "DE"⟩ ∧
      row.metrics[0]? = some ⟨"total", 1.0, 0.0⟩ := by
  obtain ⟨functions, windows, queries, answers, planned, ran, assembled⟩ :=
    compareBy_eq_ok.1 succeeded
  obtain rfl : answers = responses regional queries := reached.truthful.runInTurn (fun _ => rfl) ran
  obtain ⟨columns, cut, -⟩ := bucketPlan_eq_ok.1 planned
  obtain rfl := Except.ok.inj columns
  obtain rfl := Except.ok.inj ((Request.windows_halves _).symm.trans cut)
  have unstamped : ∀ q, ∀ row ∈ (regional q).rows, row.bucket = none := by simp [regional]
  have answered : (Request.halves ["country"]).Answered 1 _ _ (responses regional queries) _ :=
    answered_responses planned (.refl _)
  have completes := (assemble_responses planned unstamped (.refl _)).1 assembled
  have shown : Seen (responses regional queries).entries ⟨"country", "DE"⟩ :=
    (answered.seen_iff_cellRow? rfl (fun _ _ => eq_of_get?_responses) _).2
      ⟨.head _, 0, _, .baseline, rfl, rfl⟩
  obtain ⟨row, inRows, completed⟩ := exists_of_forall₂ completes
    ((answered.mem_cells rfl ⟨some ⟨"country", "DE"⟩, 0⟩).2 ⟨⟨_, shown, rfl⟩, by decide⟩)
  have intervals := Option.some.inj completed.at.intervals
  refine ⟨row, inRows, completed.at.dimension, ?_⟩
  rw [completed.reads.getElem?_metrics rfl, ← intervals]
  rfl

theorem comparison_by_parts_regional :
    regionalService.Oblivious regional ∧ ∃ c,
      (regionalService.answerBy Table.entries ⟨(), some .empty, []⟩
        (.comparison (.halves ["country"]))).1 = .ok (.comparison c) ∧
      (∃ row ∈ c.rows, row.dimension = some ⟨"country", "DE"⟩ ∧
        row.metrics[0]? = some ⟨"total", 1.0, 0.0⟩) ∧
      ∃ functions windows parts cells, windows.size = 2 ∧
        List.Forall₂ (Row.Refines (regionalService.evaluator.complete [.raw "total"] functions)
          functions windows parts) cells c.rows := by
  have oblivious : regionalService.Oblivious regional :=
    ⟨fun _ _ => rfl, by decide, fun _ _ => rfl, by simp [regional]⟩
  have reached : World.Reached regionalService.backend ⟨(), some .empty, []⟩ :=
    ⟨[], .fresh _ fun _ => rfl⟩
  have planned : regionalService.bucketPlan (.halves ["country"]) = _ :=
    bucketPlan_eq_ok.2 ⟨rfl, Request.windows_halves _, rfl⟩
  obtain ⟨c, succeeded⟩ : ∃ c, (regionalService.compareBy Table.entries ⟨(), some .empty, []⟩
      (.halves ["country"])).1 = .ok c := exists_compareBy_of_raw planned rfl rfl
  have answered : (regionalService.answerBy Table.entries ⟨(), some .empty, []⟩
      (.comparison (.halves ["country"]))).1 = .ok (.comparison c) := by
    rw [answerBy_comparison, Prod.map_fst, succeeded]
    rfl
  obtain ⟨functions, windows, -, cut, -, grouped⟩ :=
    comparison_by_parts oblivious reached (fun _ => .refl _) answered
  obtain ⟨parts, cells, -, -, -, refines, -⟩ := grouped rfl
  obtain rfl := Except.ok.inj ((Request.windows_halves _).symm.trans cut)
  exact ⟨oblivious, c, answered, exists_row_regional reached succeeded, functions, _, parts, cells,
    rfl, refines⟩

end Service

end PeriodCompare
