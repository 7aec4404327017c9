import PeriodCompare.Proofs.Parts
import PeriodCompare.Proofs.Refusal

set_option autoImplicit false

namespace PeriodCompare

def Metric.exchanged (m : Metric) : Metric :=
  ⟨m.name, m.current, m.baseline⟩

namespace Row

def exchanged (row : Row) : Row where
  baseline := row.current
  current := row.baseline
  dimension := row.dimension
  metrics := row.metrics.map Metric.exchanged

@[simp] theorem values_exchanged (row : Row) (window : Window) :
    row.exchanged.values window = row.values window.other := by
  funext name
  simp only [values, exchanged, List.filter_map, List.getLast?_map, Option.map_map]
  cases window <;> rfl

end Row

def Comparison.exchanged (c : Comparison) : Comparison :=
  ⟨c.rows.map Row.exchanged⟩

def Query.exchanged (q : Query) : Query :=
  { q with window := q.window.other }

def Windows.exchanged (windows : Windows) : Windows :=
  ⟨windows.current, windows.baseline⟩

theorem Windows.pair?_exchanged (windows : Windows) (bucket : Nat) :
    windows.exchanged.pair? bucket = (windows.pair? bucket).map Prod.swap := by
  simp only [pair?, exchanged]
  cases windows.baseline[bucket]? <;> cases windows.current[bucket]? <;> rfl

namespace Evaluator

variable {v : Evaluator} {functions : List MetricFunction} {metrics : List MetricExpression}

theorem derive_exchanged {raw : Row} {m : MetricExpression} {added : Metric}
    (derived : v.derive raw m = .ok added) : v.derive raw.exchanged m = .ok added.exchanged := by
  simp only [derive, Checked.bind_eq_ok, Checked.pure_eq_ok, Row.values_exchanged] at *
  obtain ⟨baseline, first, current, second, rfl⟩ := derived
  exact ⟨current, second, baseline, first, rfl⟩

theorem complete_exchanged {raw row : Row} (completed : v.complete metrics functions raw = .ok row) :
    v.complete metrics functions raw.exchanged = .ok row.exchanged := by
  obtain ⟨added, all, rfl⟩ := complete_eq_ok.1 completed
  refine complete_eq_ok.2 ⟨added.map Metric.exchanged, ?_, by simp [Row.exchanged]⟩
  rw [Checked.mapM_eq_ok] at all ⊢
  rw [List.forall₂_map_right_iff]
  exact all.imp fun _ _ => derive_exchanged

end Evaluator

namespace Request

variable {r : Request} {topK : Nat} {functions : List MetricFunction} {windows : Windows}
  {queries : List Query}

def exchanged (r : Request) : Request :=
  r.withWindows r.current r.baseline

theorem windows_exchanged (cutInto : r.windows = .ok windows) :
    r.exchanged.windows = .ok windows.exchanged := by
  simp only [Request.windows, Checked.bind_eq_ok] at *
  obtain ⟨baseline, cutBaseline, current, cutCurrent, same⟩ := cutInto
  refine ⟨current, cutCurrent, baseline, cutBaseline, ?_⟩
  by_cases counts : baseline.length = current.length
  · rw [if_pos counts] at same
    obtain rfl := Except.ok.inj same
    exact if_pos counts.symm
  · simp [counts] at same

theorem query_exchanged (pair : Interval × Interval) (bucket : Nat) (dimension : Option String)
    (window : Window) :
    (r.withWindows pair.2 pair.1).query topK functions bucket dimension window =
      ((r.withWindows pair.1 pair.2).query topK functions bucket dimension window.other).exchanged := by
  cases dimension <;> cases window <;> rfl

theorem exchanged_mem_bucketQueries {others : List Query}
    (batch : r.bucketQueries topK functions windows = .ok queries)
    (batchToo : r.exchanged.bucketQueries topK functions windows.exchanged = .ok others) {q : Query}
    (member : q ∈ others) : q.exchanged ∈ queries := by
  obtain ⟨bucket, pair, dimension, window, found, declared, rfl⟩ :=
    (mem_bucketQueries batchToo q).1 member
  rw [Windows.pair?_exchanged, Option.map_eq_some_iff] at found
  obtain ⟨pair, found, rfl⟩ := found
  refine (mem_bucketQueries batch _).2
    ⟨bucket, pair, dimension, window.other, found, declared, ?_⟩
  cases dimension <;> cases window <;> rfl

end Request

/-- Every query is answered at once, or fails at once, and without regard to its window. -/
structure Service.Evenhanded {σ : Type} (s : Service σ) (result : Query → Checked Answer) :
    Prop where
  follows : s.backend.Follows fun q => ⟨some 0, result q⟩
  positive : 0 < s.timeout.toNanos
  blind : ∀ q window, result { q with window := window } = result q
  unstamped : ∀ q a, result q = .ok a → ∀ row ∈ a.rows, row.bucket = none

def answerTo (result : Query → Checked Answer) (q : Query) : Answer :=
  (result q).toOption.getD .empty

theorem answerTo_of_ok {result : Query → Checked Answer} {q : Query} {a : Answer}
    (answered : result q = .ok a) : answerTo result q = a := by
  simp [answerTo, answered, Except.toOption]

theorem gathered_eq_ok {result : Query → Checked Answer} {queries : List Query}
    {pairs : List (Query × Answer)} :
    Flight.gathered (queries.map fun q => Course.flight ⟨some 0, result q⟩ q) = .ok pairs ↔
      (∀ q ∈ queries, ∃ a, result q = .ok a) ∧
        pairs = queries.map fun q => (q, answerTo result q) := by
  induction queries generalizing pairs with
  | nil => simp [Flight.gathered, pure, Except.pure, eq_comm]
  | cons q rest ih =>
    rw [List.map_cons, Flight.gathered_cons, List.forall_mem_cons, Checked.bind_eq_ok]
    simp only [Checked.map_eq_ok, ih]
    constructor
    · intro both
      obtain ⟨a, first, _, ⟨later, rfl⟩, rfl⟩ := both
      have answered : result q = .ok a := first
      rw [List.map_cons, answerTo_of_ok answered]
      exact ⟨⟨⟨a, answered⟩, later⟩, rfl⟩
    · intro both
      obtain ⟨⟨⟨a, answered⟩, later⟩, rfl⟩ := both
      rw [List.map_cons, answerTo_of_ok answered]
      exact ⟨a, answered, _, ⟨later, rfl⟩, rfl⟩

theorem Service.Evenhanded.unstamped_answerTo {σ : Type} {s : Service σ}
    {result : Query → Checked Answer} (evenhanded : s.Evenhanded result) (q : Query) :
    ∀ row ∈ (answerTo result q).rows, row.bucket = none := by
  cases answered : result q with
  | error e => simp [answerTo, answered, Except.toOption, Answer.empty]
  | ok a =>
    rw [answerTo_of_ok answered]
    exact evenhanded.unstamped q a answered

namespace Service

variable {σ : Type} {s : Service σ} {w v : World σ} {r : Request} {functions : List MetricFunction}
  {windows : Windows} {queries : List Query} {result : Query → Checked Answer}
  {order reorder : Answers → List (Query × Answer)}

theorem Evenhanded.runInTurn_eq_ok (evenhanded : s.Evenhanded result)
    (reached : w.Reached s.backend) {answers : Answers} :
    (w.runInTurn s.backend s.timeout queries).1 = .ok answers ↔
      (∀ q ∈ queries, ∃ a, result q = .ok a) ∧ answers = responses (answerTo result) queries := by
  have prompt (q : Query) : (Course.mk (some 0) (result q)).Prompt := .inr rfl
  have steady := reached.steady evenhanded.follows prompt
  have flights := steady.startAll evenhanded.follows prompt queries
  have due : ∀ f ∈ queries.map fun q => Course.flight ⟨some 0, result q⟩ q, f.due = some 0 := by
    simp [Course.flight]
  cases queries with
  | nil => simp [World.runInTurn, World.run, responses, Table.ofList, Table.insertAll, eq_comm]
  | cons q rest =>
    simp only [World.runInTurn, World.run, Nat.ne_of_gt evenhanded.positive, if_false, flights,
      awaitInTurn_of_atOnce due, Checked.map_eq_ok, gathered_eq_ok]
    constructor
    · intro gathered
      obtain ⟨_, ⟨answered, rfl⟩, rfl⟩ := gathered
      exact ⟨answered, rfl⟩
    · intro answered
      exact ⟨_, ⟨answered.1, rfl⟩, answered.2.symm⟩

theorem rawRow_exchanged {respond : Query → Answer}
    (blind : ∀ q : Query, respond q.exchanged = respond q) (pair : Interval × Interval)
    (cell : Cell) :
    r.exchanged.rawRow s.topK functions respond pair.swap cell =
      (r.rawRow s.topK functions respond pair cell).exchanged := by
  have value (i : Nat) (window : Window) :
      r.exchanged.rawValue s.topK functions respond pair.swap cell i window =
        r.rawValue s.topK functions respond pair cell i window.other := by
    have asked : r.exchanged.cellQuery s.topK functions pair.swap cell window =
        (r.cellQuery s.topK functions pair cell window.other).exchanged :=
      Request.query_exchanged pair cell.bucket cell.name? window
    rw [Request.rawValue, Request.cellRow?, asked, blind]
    rfl
  simp only [Request.rawRow, value, Row.exchanged, List.map_map]
  rfl

theorem Completes.exchanged {respond : Query → Answer}
    (blind : ∀ q : Query, respond q.exchanged = respond q) {cell : Cell} {row : Row}
    (completes : s.Completes r functions windows respond cell row) :
    s.Completes r.exchanged functions windows.exchanged respond cell row.exchanged := by
  obtain ⟨pair, found, completed⟩ := completes
  refine ⟨pair.swap, by rw [Windows.pair?_exchanged, found]; rfl, ?_⟩
  rw [rawRow_exchanged blind]
  exact Evaluator.complete_exchanged completed

theorem exists_bucketPlan_exchanged (planned : s.bucketPlan r = .ok (functions, windows, queries)) :
    ∃ others, s.bucketPlan r.exchanged = .ok (functions, windows.exchanged, others) := by
  obtain ⟨columns, cutInto, batch⟩ := bucketPlan_eq_ok.1 planned
  have cutToo := Request.windows_exchanged cutInto
  have needed := (Request.exists_bucketQueries cutInto).1 ⟨queries, batch⟩
  obtain ⟨others, batchToo⟩ := (Request.exists_bucketQueries (r := r.exchanged) cutToo).2 needed
  exact ⟨others, bucketPlan_eq_ok.2 ⟨columns, cutToo, batchToo⟩⟩

theorem seen_of_exchanged {respond : Query → Answer} {others : List Query} {d : Dimension}
    (blind : ∀ q : Query, respond q.exchanged = respond q)
    (there : ∀ q ∈ others, q.exchanged ∈ queries)
    (seen : Seen (responses respond others).entries d) :
    Seen (responses respond queries).entries d := by
  obtain ⟨q, asked, shown⟩ := seen_responses.1 seen
  exact seen_responses.2 ⟨q.exchanged, there q asked, by rwa [blind]⟩

theorem compareBy_exchanged_of_ok (evenhanded : s.Evenhanded result)
    (reached : w.Reached s.backend) (reachedToo : v.Reached s.backend)
    (orders : ∀ answers, (order answers).Perm answers.entries)
    (reorders : ∀ answers, (reorder answers).Perm answers.entries) {c : Comparison}
    (succeeded : (s.compareBy order w r).1 = .ok c) :
    (s.compareBy reorder v r.exchanged).1 = .ok c.exchanged := by
  obtain ⟨functions, windows, queries, answers, planned, ran, assembled⟩ :=
    compareBy_eq_ok.1 succeeded
  obtain ⟨answeredEach, rfl⟩ := (evenhanded.runInTurn_eq_ok reached).1 ran
  obtain ⟨others, plannedToo⟩ := exists_bucketPlan_exchanged planned
  obtain ⟨-, cutInto, batch⟩ := bucketPlan_eq_ok.1 planned
  obtain ⟨-, -, batchToo⟩ := bucketPlan_eq_ok.1 plannedToo
  have blind (q : Query) : answerTo result q.exchanged = answerTo result q := by
    rw [answerTo, Query.exchanged, evenhanded.blind, answerTo]
  have there : ∀ q ∈ others, q.exchanged ∈ queries := fun q =>
    Request.exchanged_mem_bucketQueries batch batchToo
  have back : ∀ q ∈ queries, q.exchanged ∈ others := fun q =>
    Request.exchanged_mem_bucketQueries (r := r.exchanged) batchToo batch
  have ranToo : (v.runInTurn s.backend s.timeout others).1 =
      .ok (responses (answerTo result) others) := by
    refine (evenhanded.runInTurn_eq_ok reachedToo).2 ⟨fun q asked => ?_, rfl⟩
    obtain ⟨a, answeredBy⟩ := answeredEach _ (there q asked)
    exact ⟨a, (evenhanded.blind q q.window.other).symm.trans answeredBy⟩
  have answered := answered_responses planned (orders (responses (answerTo result) queries))
  have answeredToo := answered_responses plannedToo (reorders (responses (answerTo result) others))
  have size : windows.exchanged.size = windows.size := (Request.windows_aligned cutInto).symm
  have coversToo := answeredToo.covers
  rw [size] at coversToo
  have cells := answered.covers.eq coversToo rfl fun _ =>
    ⟨seen_of_exchanged blind there, seen_of_exchanged blind back⟩
  have completes :=
    (assemble_responses planned evenhanded.unstamped_answerTo (orders _)).1 assembled
  refine compareBy_eq_ok.2 ⟨functions, windows.exchanged, others, _, plannedToo, ranToo, ?_⟩
  rw [assemble_responses plannedToo evenhanded.unstamped_answerTo (reorders _), size, cells,
    Comparison.exchanged, List.forall₂_map_right_iff]
  exact completes.imp fun _ _ => Completes.exchanged blind

/-- Where the backend does not look at the window of a query, exchanging the windows exchanges both
sides of every row and of every metric, and nothing else. -/
theorem compareBy_exchanged (evenhanded : s.Evenhanded result)
    (reached : w.Reached s.backend) (reachedToo : v.Reached s.backend)
    (orders : ∀ answers, (order answers).Perm answers.entries)
    (reorders : ∀ answers, (reorder answers).Perm answers.entries) (r : Request) :
    ((∃ d, (s.compareBy reorder v r.exchanged).1 = .ok d) ↔
      ∃ c, (s.compareBy order w r).1 = .ok c) ∧
    ∀ c, (s.compareBy order w r).1 = .ok c →
      (s.compareBy reorder v r.exchanged).1 = .ok c.exchanged := by
  have forth (c : Comparison) (succeeded : (s.compareBy order w r).1 = .ok c) :
      (s.compareBy reorder v r.exchanged).1 = .ok c.exchanged :=
    compareBy_exchanged_of_ok evenhanded reached reachedToo orders reorders succeeded
  refine ⟨⟨fun both => ?_, fun both => ?_⟩, forth⟩
  · obtain ⟨d, succeeded⟩ := both
    exact ⟨d.exchanged,
      compareBy_exchanged_of_ok evenhanded reachedToo reached reorders orders succeeded⟩
  · obtain ⟨c, succeeded⟩ := both
    exact ⟨c.exchanged, forth c succeeded⟩

theorem compareBy_exchanged_regional :
    regionalService.Evenhanded (fun q => .ok (regional q)) ∧ ∃ c,
      (regionalService.compareBy Table.entries ⟨(), some .empty, []⟩
        (.halves ["country"])).1 = .ok c ∧
      (∃ row ∈ c.rows, row.dimension = some ⟨"country", "DE"⟩ ∧
        row.metrics[0]? = some ⟨"total", 1.0, 0.0⟩) ∧
      (regionalService.compareBy Table.entries ⟨(), none, []⟩
        (Request.halves ["country"]).exchanged).1 = .ok c.exchanged := by
  have evenhanded : regionalService.Evenhanded (fun q => .ok (regional q)) := by
    refine ⟨fun _ _ => rfl, by decide, fun _ _ => rfl, fun q a answered => ?_⟩
    obtain rfl := Except.ok.inj answered
    simp [regional]
  have reached (cache : Option Answers) (empty : ∀ q, cache.bind (·.get? q) = none) :
      World.Reached regionalService.backend ⟨(), cache, []⟩ :=
    ⟨[], .fresh _ empty⟩
  have planned : regionalService.bucketPlan (.halves ["country"]) = _ :=
    bucketPlan_eq_ok.2 ⟨rfl, Request.windows_halves _, rfl⟩
  obtain ⟨c, succeeded⟩ : ∃ c, (regionalService.compareBy Table.entries ⟨(), some .empty, []⟩
      (.halves ["country"])).1 = .ok c := exists_compareBy_of_raw planned rfl rfl
  obtain ⟨-, exchanged⟩ := compareBy_exchanged evenhanded
    (reached (some .empty) fun _ => rfl) (reached none fun _ => rfl)
    (fun _ => .refl _) (fun _ => .refl _) (.halves ["country"])
  exact ⟨evenhanded, c, succeeded, exists_row_regional (reached _ fun _ => rfl) succeeded,
    exchanged c succeeded⟩

end Service

end PeriodCompare
