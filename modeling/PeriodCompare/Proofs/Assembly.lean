import PeriodCompare.Proofs.Prompt
import PeriodCompare.Proofs.Scope

set_option autoImplicit false

namespace PeriodCompare

theorem map_zipIdx_eq {α β : Type} {place : α × Nat → β} {value : α → β} (l : List α) (n : Nat)
    (same : ∀ a i, (a, i) ∈ l.zipIdx n → place (a, i) = value a) :
    (l.zipIdx n).map place = l.map value := by
  conv_rhs => rw [← List.zipIdx_map_fst n l, List.map_map]
  exact List.map_congr_left fun (a, i) member => same a i member

namespace Request

variable {r : Request} {topK : Nat} {functions : List MetricFunction} {windows : Windows}
  {respond : Query → Answer} {answers : Answers} {order : List (Query × Answer)}
  {pair : Interval × Interval} {cell : Cell}

def cellRow? (r : Request) (topK : Nat) (functions : List MetricFunction)
    (respond : Query → Answer) (pair : Interval × Interval) (cell : Cell) (window : Window) :
    Option AnswerRow :=
  (respond (r.cellQuery topK functions pair cell window)).lastRow? cell.value?

def rawValue (r : Request) (topK : Nat) (functions : List MetricFunction)
    (respond : Query → Answer) (pair : Interval × Interval) (cell : Cell) (i : Nat)
    (window : Window) : Float :=
  ((r.cellRow? topK functions respond pair cell window).bind (·.metrics[i]?)).getD 0.0

def rawRow (r : Request) (topK : Nat) (functions : List MetricFunction)
    (respond : Query → Answer) (pair : Interval × Interval) (cell : Cell) : Row where
  baseline := pair.1
  current := pair.2
  dimension := cell.dimension
  metrics := functions.zipIdx.map fun (f, i) =>
    ⟨f.metric, r.rawValue topK functions respond pair cell i .baseline,
      r.rawValue topK functions respond pair cell i .current⟩

namespace Answered

theorem row_keyOf (answered : r.Answered topK functions windows answers order)
    (own : OwnBuckets order) (responds : ∀ q a, answers.get? q = some a → a = respond q)
    (found : windows.pair? cell.bucket = some pair) (declared : cell.name? ∈ r.breakdowns) :
    (PairedIndex.ofAnswers r.layout order).row functions (r.layout.keyOf cell) pair =
      r.rawRow topK functions respond pair cell := by
  have value (window : Window) (i : Nat) :
      (PairedIndex.ofAnswers r.layout order).valueAt window (r.layout.keyOf cell) i =
        r.rawValue topK functions respond pair cell i window := by
    obtain ⟨a, answeredBy⟩ := answered.exists_answer found declared window
    rw [PairedIndex.valueAt_eq, answered.get?_keyOf own found declared window, answeredBy,
      responds _ a answeredBy, Option.bind_some]
    rfl
  simp only [PairedIndex.row, value]
  rfl

theorem seen_iff_cellRow? (answered : r.Answered topK functions windows answers order)
    (grouped : r.isGrouped = true) (responds : ∀ q a, answers.get? q = some a → a = respond q)
    (d : Dimension) :
    Seen answers.entries d ↔ d.name ∈ r.groupBy ∧ ∃ bucket pair window,
      windows.pair? bucket = some pair ∧
        (r.cellRow? topK functions respond pair ⟨some d, bucket⟩ window).isSome := by
  constructor
  · intro seen
    refine ⟨answered.seen_declared grouped seen, ?_⟩
    obtain ⟨⟨q, a⟩, member, name, shown⟩ := seen
    have inOrder := answered.perm.mem_iff.2 member
    obtain ⟨bucket, pair, dimension, window, found, -, rfl⟩ := answered.exists_query inOrder
    obtain rfl : dimension = some d.name := by simpa using name
    obtain rfl := responds _ a (answered.get?_of_mem inOrder)
    exact ⟨bucket, pair, window, found, (Answer.isSome_lastRow? _ _).2 shown⟩
  · rintro ⟨declared, bucket, pair, window, found, shown⟩
    have declaredToo : (Cell.mk (some d) bucket).name? ∈ r.breakdowns :=
      (mem_breakdowns_of_grouped grouped _).2 ⟨d.name, declared, rfl⟩
    obtain ⟨a, answeredBy⟩ := answered.exists_answer found declaredToo window
    have inOrder := answered.mem_of_get? answeredBy
    obtain rfl := responds _ a answeredBy
    exact ⟨_, answered.perm.mem_iff.1 inOrder, by simp, (Answer.isSome_lastRow? _ _).1 shown⟩

end Answered

end Request

namespace Service

variable {σ : Type} {s : Service σ} {r : Request} {functions : List MetricFunction}
  {windows : Windows} {respond : Query → Answer} {answers : Answers}
  {order : List (Query × Answer)} {rows : List Row}

def Completes (s : Service σ) (r : Request) (functions : List MetricFunction) (windows : Windows)
    (respond : Query → Answer) (cell : Cell) (row : Row) : Prop :=
  ∃ pair, windows.pair? cell.bucket = some pair ∧
    s.evaluator.complete r.metrics functions (r.rawRow s.topK functions respond pair cell) = .ok row

theorem assemble_eq_ok (answered : r.Answered s.topK functions windows answers order)
    (own : OwnBuckets order) (responds : ∀ q a, answers.get? q = some a → a = respond q) :
    s.assemble r.layout r windows functions order = .ok rows ↔
      List.Forall₂ (s.Completes r functions windows respond) (r.cells order windows.size) rows := by
  have joined := (PairedIndex.ofAnswers r.layout order).forall₂_join r.layout windows functions
    r.groupBy (Request.windows_aligned answered.cut) (Request.windows_size_pos answered.cut)
  have raws := (forall₂_mem joined).imp fun cell raw ⟨member, pair, found, made⟩ =>
    (⟨pair, found, made.trans
      (answered.row_keyOf own responds found (answered.declared_of_mem_cells member))⟩ :
      ∃ pair, windows.pair? cell.bucket = some pair ∧
        raw = r.rawRow s.topK functions respond pair cell)
  rw [assemble_eq_mapM, Checked.mapM_eq_ok]
  constructor
  · intro completed
    refine (forall₂_comp raws completed).imp fun cell row made => ?_
    obtain ⟨_, ⟨pair, found, rfl⟩, completed⟩ := made
    exact ⟨pair, found, completed⟩
  · intro completes
    refine (forall₂_comp raws.flip completes).imp fun raw row made => ?_
    obtain ⟨cell, ⟨pair, found, rfl⟩, _, foundToo, completed⟩ := made
    obtain rfl := Option.some.inj (found.symm.trans foundToo)
    exact completed

end Service

end PeriodCompare
