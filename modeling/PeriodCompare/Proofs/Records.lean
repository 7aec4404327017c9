import PeriodCompare.Proofs.Comparison
import PeriodCompare.Store

set_option autoImplicit false

namespace PeriodCompare

def Window.pick (window : Window) (pair : Interval × Interval) : Interval :=
  match window with
  | .baseline => pair.1
  | .current => pair.2

def Row.interval (row : Row) (window : Window) : Interval :=
  window.pick (row.baseline, row.current)

theorem Row.At.interval_wholeWindows {r : Request} {cell : Cell} {row : Row}
    (here : Row.At r.wholeWindows cell row) (window : Window) :
    row.interval window = window.pick (r.baseline, r.current) := by
  rw [Row.interval, (Request.pair?_wholeWindows.1 here.intervals).2]

def Request.Admits (r : Request) (i : Interval) (record : Record) : Prop :=
  i.start ≤ record.time ∧ record.time < i.finish ∧
    ∀ entry ∈ r.filters.entries, ∃ value ∈ entry.2, record.dimensions.get? entry.1 = some value

instance (r : Request) (i : Interval) (record : Record) : Decidable (r.Admits i record) :=
  inferInstanceAs (Decidable (_ ∧ _ ∧ ∀ entry ∈ r.filters.entries, ∃ value ∈ entry.2, _))

namespace Store

def admitted (st : Store) (r : Request) (i : Interval) : List Record :=
  (st.records r.collection).filter fun record => r.Admits i record

def answer (st : Store) (q : Query) : Answer :=
  answerFrom (st.nan q.collection) (st.records q.collection) q

end Store

theorem Record.isMatch_iff (record : Record) (q : Query) :
    record.isMatch q = true ↔ q.start ≤ record.time ∧ record.time < q.finish ∧
      ∀ entry ∈ q.filters.entries, ∃ value ∈ entry.2, record.dimensions.get? entry.1 = some value := by
  simp [isMatch, Option.any_eq_true, and_assoc, and_comm]

section Query

variable {r : Request} {topK : Nat} {functions : List MetricFunction} {pair : Interval × Interval}
  {bucket : Nat} {dimension : Option String} {window : Window}

theorem Record.isMatch_query (record : Record) :
    record.isMatch ((r.withWindows pair.1 pair.2).query topK functions bucket dimension window) =
      decide (r.Admits (window.pick pair) record) := by
  rw [Bool.eq_iff_iff, isMatch_iff, decide_eq_true_iff]
  cases dimension <;> cases window <;> rfl

theorem Store.filter_query (st : Store) :
    (st.records ((r.withWindows pair.1 pair.2).query topK functions bucket dimension
        window).collection).filter
          (·.isMatch ((r.withWindows pair.1 pair.2).query topK functions bucket dimension window)) =
      st.admitted r (window.pick pair) := by
  rw [Request.query_collection]
  exact List.filter_congr fun record _ => record.isMatch_query

theorem getElem?_totals {functions : List MetricFunction} {i : Nat} {f : MetricFunction}
    (column : functions[i]? = some f) (records : List Record) :
    (totals functions records)[i]? = some (total (records.filterMap (·.metrics.get? f.metric))) := by
  simp [totals, column]

theorem Store.lastRow?_ungrouped (st : Store) :
    (st.answer ((r.withWindows pair.1 pair.2).query topK functions bucket none window)).lastRow?
        none =
      if (st.admitted r (window.pick pair)).isEmpty then none
      else some ⟨none, [], totals functions (st.admitted r (window.pick pair))⟩ := by
  simp only [answer, answerFrom, Answer.lastRow?, st.filter_query, Request.query_groupBy,
    Request.query_functions]
  split <;> simp [AnswerRow.carries]

end Query

theorem unstamped_answerFrom (nan : Option MetricFunction → List Record → Numeric.NaN)
    (records : List Record) (q : Query) :
    ∀ row ∈ (answerFrom nan records q).rows, row.bucket = none := by
  intro row member
  simp only [answerFrom] at member
  cases grouped : q.groupBy with
  | none =>
    simp only [grouped] at member
    split at member <;> simp at member
    rw [member]
  | some dimension =>
    simp only [grouped] at member
    obtain ⟨g, -, rfl⟩ := List.mem_map.1 member
    rfl

end PeriodCompare
