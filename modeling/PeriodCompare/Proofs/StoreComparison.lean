import PeriodCompare.Proofs.Parts
import PeriodCompare.Proofs.Ranking
import PeriodCompare.Proofs.Together

set_option autoImplicit false

namespace PeriodCompare

namespace World

variable {w : World Unit} {course : Query → Course} {timeout : Duration} {queries : List Query}

theorem due_startAll (queries : List Query) :
    ∀ f ∈ (w.startAll (.pure course) queries).1,
      f.query ∈ queries ∧ (f.due = some 0 ∨ f.due = (course f.query).latency) := by
  induction queries generalizing w with
  | nil => simp [startAll]
  | cons q rest ih =>
    simp only [startAll]
    refine List.forall_mem_cons.2 ⟨?_, fun f started => ?_⟩
    · rw [start_query]
      refine ⟨List.mem_cons_self, ?_⟩
      cases known : w.cached? q with
      | none => exact .inr (by rw [start_of_missing known]; rfl)
      | some a => exact .inl (by rw [start_of_cached known])
    · obtain ⟨asked, due⟩ := ih f started
      exact ⟨List.mem_cons_of_mem _ asked, due⟩

theorem Truthful.runInTurn_of_quick {respond : Query → Answer} (truthful : w.Truthful course)
    (answer : ∀ q, (course q).outcome = .ok (respond q))
    (quick : ∀ q ∈ queries, ∃ due, (course q).latency = some due ∧ due < timeout.toNanos)
    (positive : 0 < timeout.toNanos) :
    (w.runInTurn (.pure course) timeout queries).1 =
      .ok (.ofList (queries.map fun q => (q, respond q))) := by
  have outcomes := truthful.startAll_outcome answer queries
  have all : AllInTurn timeout 0 (w.startAll (.pure course) queries).1 := by
    apply allInTurn_of_answeredBefore
    intro f started
    obtain ⟨asked, due⟩ := due_startAll queries f started
    obtain ⟨moment, latency, inTime⟩ := quick f.query asked
    rcases due with cached | sent
    · exact ⟨0, _, cached, positive, outcomes f started⟩
    · exact ⟨moment, _, sent.trans latency, inTime, outcomes f started⟩
  obtain ⟨pairs, -, succeeded⟩ := exists_runInTurn_of_pos positive all
  have same := truthful.runInTurn answer succeeded
  rw [succeeded, same]

end World

namespace Store

def answers (st : Store) (queries : List Query) : Answers :=
  .ofList (queries.map fun q => (q, st.answer q))

def service (st : Store) (evaluator : Evaluator) (timeout : Duration) (topK : Nat) : Service Unit :=
  ⟨st.backend, evaluator, timeout, topK⟩

def sale (time : Int) (country : String) (total : Float) : Record :=
  ⟨.ofMillis time, .ofList [("country", country)], .ofList [("total", total)]⟩

/-- Sales in two countries before and after an instant that two windows share. -/
def sales : Store where
  collections := .ofList [("orders",
    [sale 0 "DE" 2.0, sale 4 "AT" 3.0, sale 9 "DE" 2.0, sale 10 "AT" 1.0])]
  latency := 20
  stalls := []
  nan := fun _ => metricNaN

variable {st : Store} {w : World Unit} {evaluator : Evaluator} {timeout : Duration} {topK : Nat}
  {order : Answers → List (Query × Answer)} {r : Request} {c : Comparison}

theorem unstamped_answer (st : Store) (q : Query) : ∀ row ∈ (st.answer q).rows, row.bucket = none :=
  unstamped_answerFrom _ _ q

theorem forall₂_completes (reached : w.Reached st.backend)
    (orders : ∀ answers, (order answers).Perm answers.entries)
    (succeeded : ((st.service evaluator timeout topK).compareBy order w r).1 = .ok c) :
    ∃ functions windows queries,
      (st.service evaluator timeout topK).bucketPlan r = .ok (functions, windows, queries) ∧
      r.Answered topK functions windows (st.answers queries) (order (st.answers queries)) ∧
      List.Forall₂ ((st.service evaluator timeout topK).Completes r functions windows st.answer)
        (r.cells (order (st.answers queries)) windows.size) c.rows := by
  obtain ⟨functions, windows, queries, answers, planned, ran, assembled⟩ :=
    Service.compareBy_eq_ok.1 succeeded
  obtain rfl : answers = st.answers queries := reached.truthful.runInTurn (fun q => rfl) ran
  exact ⟨functions, windows, queries, planned, Service.answered_responses planned (orders _),
    (Service.assemble_responses planned st.unstamped_answer (orders _)).1 assembled⟩

theorem compareBy_eq_ok {functions : List MetricFunction} {windows : Windows}
    {queries : List Query} (reached : w.Reached st.backend)
    (orders : ∀ answers, (order answers).Perm answers.entries)
    (quick : st.latency < timeout.toNanos)
    (planned : (st.service evaluator timeout topK).bucketPlan r = .ok (functions, windows, queries))
    (unstalled : ∀ q ∈ queries, st.isStalled q = false) :
    ((st.service evaluator timeout topK).compareBy order w r).1 = .ok c ↔
      List.Forall₂ ((st.service evaluator timeout topK).Completes r functions windows st.answer)
        (r.cells (order (st.answers queries)) windows.size) c.rows := by
  constructor
  · intro succeeded
    obtain ⟨_, _, _, again, -, completes⟩ := forall₂_completes reached orders succeeded
    rw [planned, Except.ok.injEq, Prod.mk.injEq, Prod.mk.injEq] at again
    obtain ⟨rfl, rfl, rfl⟩ := again
    exact completes
  · intro completes
    have due (q : Query) (asked : q ∈ queries) :
        ∃ due, (st.course q).latency = some due ∧ due < timeout.toNanos :=
      ⟨st.latency, by simp [course, unstalled q asked], quick⟩
    have ran : (w.runInTurn st.backend timeout queries).1 = .ok (st.answers queries) :=
      reached.truthful.runInTurn_of_quick (fun q => rfl) due (Nat.zero_lt_of_lt quick)
    exact Service.compareBy_eq_ok.2 ⟨functions, windows, queries, _, planned, ran,
      (Service.assemble_responses planned st.unstamped_answer (orders _)).2 completes⟩

theorem exists_forall₂_reads (reached : w.Reached st.backend)
    (orders : ∀ answers, (order answers).Perm answers.entries)
    (succeeded : ((st.service evaluator timeout topK).compareBy order w r).1 = .ok c) :
    ∃ functions windows queries cells,
      evaluator.columns r.metrics = .ok functions ∧ r.windows = .ok windows ∧
      r.bucketQueries topK functions windows = .ok queries ∧
      r.Covers (st.answers queries).entries windows.size cells ∧
      List.Forall₂ (fun cell row => Row.At windows cell row ∧
        row.Reads functions fun window i _ =>
          (((st.answer (r.cellQuery topK functions (row.baseline, row.current) cell
            window)).lastRow? cell.value?).bind (·.metrics[i]?)).getD 0.0) cells c.rows := by
  obtain ⟨functions, windows, queries, planned, answered, completes⟩ :=
    forall₂_completes reached orders succeeded
  obtain ⟨columns, cutInto, batch⟩ := Service.bucketPlan_eq_ok.1 planned
  exact ⟨functions, windows, queries, _, columns, cutInto, batch, answered.covers,
    completes.imp fun _ _ made => ⟨made.at, made.reads⟩⟩

theorem compareBy_ungrouped (reached : w.Reached st.backend)
    (orders : ∀ answers, (order answers).Perm answers.entries) (ungrouped : r.isGrouped = false)
    (succeeded : ((st.service evaluator timeout topK).compareBy order w r).1 = .ok c) :
    ∃ functions windows,
      evaluator.columns r.metrics = .ok functions ∧ r.windows = .ok windows ∧
      List.Forall₂ (fun bucket row => Row.At windows ⟨none, bucket⟩ row ∧
        row.Reads functions fun window _ f =>
          if (st.admitted r (row.interval window)).isEmpty then 0.0
          else total ((st.admitted r (row.interval window)).filterMap (·.metrics.get? f.metric)))
        (List.range windows.size) c.rows := by
  obtain ⟨functions, windows, queries, cells, columns, cutInto, batch, covers, rows⟩ :=
    exists_forall₂_reads reached orders succeeded
  refine ⟨functions, windows, columns, cutInto, ?_⟩
  rw [covers.ungrouped ungrouped, List.forall₂_map_left_iff] at rows
  apply rows.imp
  intro bucket row both
  obtain ⟨here, reads⟩ := both
  refine ⟨here, reads.congr fun window i f column => ?_⟩
  have shown : (st.answer (r.cellQuery topK functions (row.baseline, row.current) ⟨none, bucket⟩
      window)).lastRow? none = _ := st.lastRow?_ungrouped
  rw [Cell.value?_mk, Option.map_none, shown, Row.interval]
  split
  · rfl
  · rw [Option.bind_some, getElem?_totals column, Option.getD_some]

theorem compareBy_ungrouped_sales : ∃ c,
    ((sales.service .naming (.ofSecs 1) 1).compareBy Table.entries ⟨(), none, []⟩
      (.orderTotals [])).1 = .ok c ∧
    ∃ row, c.rows = [row] ∧ row.dimension = none ∧
      row.metrics[0]? = some ⟨"total", 7.0, 1.0⟩ := by
  obtain ⟨c, succeeded⟩ : ∃ c, ((sales.service .naming (.ofSecs 1) 1).compareBy Table.entries
      ⟨(), none, []⟩ (.orderTotals [])).1 = .ok c :=
    Service.exists_compareBy_of_raw rfl rfl rfl
  obtain ⟨functions, windows, columns, cutInto, rows⟩ :=
    compareBy_ungrouped ⟨[], .fresh _ fun _ => rfl⟩ (fun _ => .refl _) rfl succeeded
  obtain rfl := Except.ok.inj columns
  obtain rfl := Request.windows_of_no_granularity rfl cutInto
  obtain ⟨row, _, ⟨here, reads⟩, others, alone⟩ := List.forall₂_cons_left_iff.1 rows
  obtain rfl := List.forall₂_nil_left_iff.1 others
  refine ⟨c, succeeded, row, alone, here.dimension, ?_⟩
  rw [reads.getElem?_metrics rfl, here.interval_wholeWindows, here.interval_wholeWindows]
  rfl

theorem rawRow_ungrouped {functions : List MetricFunction} {pair : Interval × Interval} {bucket : Nat}
    (counts : ∀ window : Window, (st.admitted r (window.pick pair)).isEmpty = false) :
    r.rawRow topK functions st.answer pair ⟨none, bucket⟩ =
      ⟨pair.1, pair.2, none, functions.map fun f =>
        ⟨f.metric, total ((st.admitted r pair.1).filterMap (·.metrics.get? f.metric)),
          total ((st.admitted r pair.2).filterMap (·.metrics.get? f.metric))⟩⟩ := by
  have value {i : Nat} {f : MetricFunction} (column : functions[i]? = some f) (window : Window) :
      r.rawValue topK functions st.answer pair ⟨none, bucket⟩ i window =
        total ((st.admitted r (window.pick pair)).filterMap (·.metrics.get? f.metric)) := by
    have shown : r.cellRow? topK functions st.answer pair ⟨none, bucket⟩ window = _ :=
      st.lastRow?_ungrouped
    rw [Request.rawValue, shown, counts window, if_neg Bool.false_ne_true, Option.bind_some,
      getElem?_totals column, Option.getD_some]
  rw [Request.rawRow, map_zipIdx_eq]
  intro f i member
  have column : functions[i]? = some f := List.mem_zipIdx_iff_getElem?.1 member
  simp only [value column]
  rfl

section Seen

variable {functions : List MetricFunction} {windows : Windows} {queries : List Query}

theorem seen_iff_answered (grouped : r.isGrouped = true)
    (batch : r.bucketQueries topK functions windows = .ok queries) (d : Dimension) :
    Seen (st.answers queries).entries d ↔
      d.name ∈ r.groupBy ∧ ∃ bucket pair, ∃ window : Window, windows.pair? bucket = some pair ∧
        ∃ row ∈ (st.answer ((r.withWindows pair.1 pair.2).query topK functions bucket
          (some d.name) window)).rows, row.dimensions.head? = some d.value := by
  constructor
  · intro seen
    obtain ⟨⟨q, a⟩, member, groupedBy, shown⟩ := seen
    obtain ⟨asked, rfl⟩ := Table.mem_entries_ofList_map.1 member
    obtain ⟨bucket, pair, dimension, window, found, declared, rfl⟩ :=
      (Request.mem_bucketQueries batch q).1 asked
    obtain ⟨name, inGroups, rfl⟩ := (Request.mem_breakdowns_of_grouped grouped dimension).1 declared
    obtain rfl : name = d.name := by simpa using groupedBy
    exact ⟨inGroups, bucket, pair, window, found, shown⟩
  · intro answered
    obtain ⟨inGroups, bucket, pair, window, found, shown⟩ := answered
    have declared := (Request.mem_breakdowns_of_grouped grouped _).2 ⟨d.name, inGroups, rfl⟩
    have asked := (Request.mem_bucketQueries batch _).2
      ⟨bucket, pair, some d.name, window, found, declared, rfl⟩
    exact ⟨_, Table.mem_entries_ofList_map.2 ⟨asked, rfl⟩, Request.query_groupBy .., shown⟩

theorem seen_iff (grouped : r.isGrouped = true)
    (batch : r.bucketQueries topK functions windows = .ok queries)
    (unlabelled : ∀ name ∈ r.groupBy, ∀ i, otherLabel ∉
      ranking (st.nan r.collection functions.head?) functions name (st.admitted r i))
    (d : Dimension) :
    Seen (st.answers queries).entries d ↔
      d.name ∈ r.groupBy ∧ ∃ bucket pair, ∃ window : Window, windows.pair? bucket = some pair ∧
        Listed topK (ranking (st.nan r.collection functions.head?) functions d.name
          (st.admitted r (window.pick pair))) d.value := by
  rw [seen_iff_answered grouped batch]
  refine and_congr_right fun inGroups => ?_
  simp only [st.listed_iff (unlabelled d.name inGroups _)]

end Seen

/-- A grouped comparison over a store ranks the values of each dimension anew in every bucket of
either window, and has a row for each bucket and each value that some ranking lists. -/
theorem compareBy_grouped (reached : w.Reached st.backend)
    (orders : ∀ answers, (order answers).Perm answers.entries) (grouped : r.isGrouped = true)
    (unlabelled : ∀ record ∈ st.records r.collection, ∀ name ∈ r.groupBy,
      record.dimensions.get? name ≠ some otherLabel)
    (succeeded : ((st.service evaluator timeout topK).compareBy order w r).1 = .ok c) :
    ∃ (functions : List MetricFunction) (windows : Windows) (first : MetricFunction)
      (ranking : String → Interval → List String),
      evaluator.columns r.metrics = .ok functions ∧ functions.head? = some first ∧
      r.windows = .ok windows ∧ (r.granularity = none → windows.size = 1) ∧
      (∀ name i, IsRanking (st.nan r.collection (some first)) (st.admitted r i) name first.metric
        (ranking name i)) ∧
      ∃ cells : List Cell, cells.Pairwise (Cell.Before r.groupBy) ∧
        (∀ cell, cell ∈ cells ↔ cell.bucket < windows.size ∧
          ∃ d, cell.dimension = some d ∧ d.name ∈ r.groupBy ∧
            ∃ bucket pair, ∃ window : Window, windows.pair? bucket = some pair ∧
              Listed topK (ranking d.name (window.pick pair)) d.value) ∧
        List.Forall₂ (fun cell row => Row.At windows cell row ∧
          ∀ d, cell.dimension = some d → row.Reads functions fun window _ f =>
            listedTotal (st.admitted r (row.interval window)) d.name f.metric topK
              (ranking d.name (row.interval window)) d.value) cells c.rows := by
  obtain ⟨functions, windows, queries, cells, columns, cutInto, batch, covers, rows⟩ :=
    exists_forall₂_reads reached orders succeeded
  obtain ⟨first, leads⟩ := Request.exists_head?_of_bucketQueries cutInto batch
  have unlisted : ∀ name ∈ r.groupBy, ∀ i, otherLabel ∉
      ranking (st.nan r.collection functions.head?) functions name (st.admitted r i) := by
    intro name inGroups i member
    obtain ⟨record, counts, labelled⟩ := (mem_ranking _ name _ _).1 member
    exact unlabelled record (List.mem_of_mem_filter counts) name inGroups labelled
  have mem_cells := covers.grouped grouped
  simp only [seen_iff grouped batch unlisted] at mem_cells
  refine ⟨functions, windows, first,
    fun name i => ranking (st.nan r.collection functions.head?) functions name (st.admitted r i),
    columns, leads, cutInto, covers.whole,
    fun name i => leads ▸ isRanking_ranking (st.nan r.collection functions.head?) name _ leads, cells,
    covers.ordered, fun cell => ?_, (forall₂_mem rows).imp ?_⟩
  · rw [mem_cells]
    constructor
    · intro member
      obtain ⟨⟨d, ⟨inGroups, listed⟩, here⟩, inside⟩ := member
      exact ⟨inside, d, here, inGroups, listed⟩
    · intro listed
      obtain ⟨inside, d, here, inGroups, listed⟩ := listed
      exact ⟨⟨d, ⟨inGroups, listed⟩, here⟩, inside⟩
  · rintro ⟨_, bucket⟩ row ⟨member, here, reads⟩
    refine ⟨here, ?_⟩
    rintro d rfl
    obtain ⟨⟨_, ⟨inGroups, -⟩, same⟩, -⟩ := (mem_cells _).1 member
    cases same
    exact reads.congr fun window i f column =>
      st.listedTotal_eq (unlisted _ inGroups _) column d.value

@[simp] theorem country_sale (time : Int) (country : String) (total : Float) :
    (sale time country total).dimensions.get? "country" = some country := rfl

def salesRanking (window : Window) : List String :=
  match window with
  | .baseline => ["DE", "AT"]
  | .current => ["AT"]

theorem isRanking_sales (window : Window) :
    IsRanking (sales.nan "orders" (some (.sum "total")))
      (sales.admitted (.orderTotals ["country"]) (window.pick
        ((Request.orderTotals ["country"]).baseline, (Request.orderTotals ["country"]).current)))
      "country" "total" (salesRanking window) := by
  cases window with
  | baseline =>
    change IsRanking _ [sale 0 "DE" 2.0, sale 4 "AT" 3.0, sale 9 "DE" 2.0] _ _ ["DE", "AT"]
    refine ⟨fun value => ?_, .cons ?_ (.cons (by simp) .nil)⟩
    · simp only [List.mem_cons, List.not_mem_nil, or_false, exists_eq_or_imp, exists_eq_left,
        country_sale, Option.some.injEq]
      tauto
    · exact List.forall_mem_singleton.2 (.inl (by decide))
  | current =>
    change IsRanking _ [sale 10 "AT" 1.0] _ _ ["AT"]
    exact ⟨fun value => by simp [eq_comm], .cons (by simp) .nil⟩

-- The cut leaves one country out of the first window and another out of the second.
theorem compareBy_grouped_sales : ∃ c,
    ((sales.service .naming (.ofSecs 1) 1).compareBy Table.entries ⟨(), none, []⟩
      (.orderTotals ["country"])).1 = .ok c ∧
    (∃ row ∈ c.rows, row.dimension = some ⟨"country", "AT"⟩ ∧
      row.metrics[0]? = some ⟨"total", 0.0, 1.0⟩) ∧
    (∃ row ∈ c.rows, row.dimension = some ⟨"country", "DE"⟩ ∧
      row.metrics[0]? = some ⟨"total", 4.0, 0.0⟩) ∧
    ∃ row ∈ c.rows, row.dimension = some ⟨"country", otherLabel⟩ ∧
      row.metrics[0]? = some ⟨"total", 3.0, 0.0⟩ := by
  obtain ⟨c, succeeded⟩ : ∃ c, ((sales.service .naming (.ofSecs 1) 1).compareBy Table.entries
      ⟨(), none, []⟩ (.orderTotals ["country"])).1 = .ok c :=
    Service.exists_compareBy_of_raw rfl rfl rfl
  obtain ⟨functions, windows, first, ranking, columns, leads, cutInto, -, ranks, cells, -, members,
      rows⟩ :=
    compareBy_grouped ⟨[], .fresh _ fun _ => rfl⟩ (fun _ => .refl _) rfl (by decide) succeeded
  obtain rfl := Except.ok.inj columns
  obtain rfl := Option.some.inj leads
  obtain rfl := Request.windows_of_no_granularity rfl cutInto
  have ranked (window : Window) := (isRanking_sales window).unique (ranks "country" _)
  have row (window : Window) {value : String} (shown : Listed 1 (salesRanking window) value) :
      ∃ row ∈ c.rows, row.dimension = some ⟨"country", value⟩ ∧
        row.metrics[0]? = some ⟨"total",
          listedTotal [sale 0 "DE" 2.0, sale 4 "AT" 3.0, sale 9 "DE" 2.0] "country" "total" 1
            ["DE", "AT"] value,
          listedTotal [sale 10 "AT" 1.0] "country" "total" 1 ["AT"] value⟩ := by
    have member : Cell.mk (some ⟨"country", value⟩) 0 ∈ cells :=
      (members _).2 ⟨Nat.zero_lt_one, _, rfl, List.mem_singleton_self _, 0, _, window,
        Request.pair?_wholeWindows.2 ⟨rfl, rfl⟩, (ranked window).symm ▸ shown⟩
    obtain ⟨row, inRows, here, reads⟩ := exists_of_forall₂ rows member
    refine ⟨row, inRows, here.dimension, ?_⟩
    rw [(reads _ rfl).getElem?_metrics rfl, here.interval_wholeWindows, here.interval_wholeWindows,
      ranked, ranked]
    rfl
  exact ⟨c, succeeded, row .current (.inl (by decide)), row .baseline (.inl (by decide)),
    row .baseline (.inr ⟨rfl, by decide⟩)⟩

end Store

end PeriodCompare
