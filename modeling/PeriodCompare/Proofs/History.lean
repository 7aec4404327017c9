import PeriodCompare.Proofs.Handles
import PeriodCompare.Proofs.Scope

set_option autoImplicit false

namespace PeriodCompare

theorem Course.answerAt?_eq_some {c : Course} {m : Moment} {a : Answer} :
    c.answerAt? m = some a ↔
      c.outcome = .ok a ∧ ∃ due, c.latency = some due ∧ m.includes due := by
  rcases c with ⟨_ | due, outcome⟩
  · simp [answerAt?]
  · cases outcome <;> simp [answerAt?, Except.toOption, and_comm]

namespace World

variable {σ : Type} {w after final : World σ} {new : List Execution} {held : Query → Moment}

theorem Grew.cached?_eq_some (grew : w.Grew after new held) {q : Query} {a : Answer} :
    after.cached? q = some a ↔
      w.cached? q = some a ∨ ∃ e ∈ new, e.query = q ∧ e.course.answerAt? (held q) = some a := by
  by_cases inNew : q ∈ new.map (·.query)
  · obtain ⟨e, member, rfl⟩ := List.mem_map.1 inNew
    rw [grew.kept e member, grew.uncached e member]
    constructor
    · exact fun answered => .inr ⟨e, member, rfl, answered⟩
    · rintro (known | ⟨other, inNewToo, same, answered⟩)
      · simp at known
      · obtain rfl := List.inj_on_of_nodup_map grew.once inNewToo member same
        exact answered
  · rw [grew.others q inNew, or_iff_left]
    rintro ⟨e, member, rfl, -⟩
    exact inNew (List.mem_map_of_mem member)

def Recorded (w : World σ) : Prop :=
  ∀ q a, w.cached? q = some a →
    ∃ e ∈ w.executions, e.query = q ∧ e.course.outcome = .ok a ∧ e.course.latency.isSome

structure Continues (w after : World σ) : Prop where
  on : after.cache.isSome
  kept : ∀ q a, w.cached? q = some a → after.cached? q = some a
  recorded : w.Recorded → after.Recorded

theorem Continues.refl (on : w.cache.isSome) : w.Continues w :=
  ⟨on, fun _ _ known => known, id⟩

theorem Continues.trans (first : w.Continues after) (second : after.Continues final) :
    w.Continues final :=
  ⟨second.on, fun q a known => second.kept q a (first.kept q a known),
    fun recorded => second.recorded (first.recorded recorded)⟩

theorem Grew.continues (grew : w.Grew after new held) : w.Continues after where
  on := grew.on
  kept := fun _ _ known => grew.cached?_eq_some.2 (.inl known)
  recorded := by
    intro recorded q a known
    rw [grew.executions]
    rcases grew.cached?_eq_some.1 known with before | ⟨e, member, same, answered⟩
    · obtain ⟨e, logged, facts⟩ := recorded q a before
      exact ⟨e, List.mem_append_left _ logged, facts⟩
    · obtain ⟨outcome, due, latency, -⟩ := Course.answerAt?_eq_some.1 answered
      exact ⟨e, List.mem_append_right _ member, same, outcome, by simp [latency]⟩

end World

namespace Service

variable {σ : Type} {s : Service σ} {w : World σ}

def batch (s : Service σ) : Step → List Query
  | .inTurn _ queries | .together queries | .byHandle queries _ => queries
  | .call c => s.asks c

def heldUntil (s : Service σ) (w : World σ) (step : Step) (q : Query) : Moment :=
  let flights := (w.startAll s.backend (s.batch step)).1
  match step with
  | .inTurn timeout _ => (awaitInTurn timeout .start flights).1
  | .together _ => (awaitTogether s.timeout flights).1
  | .byHandle queries actions => (Batch.submit w queries).heldUntil s.backend q actions
  | .call c => (c.await s.timeout flights).1

theorem exists_grew_perform (on : w.cache.isSome) {step : Step} (distinct : (s.batch step).Nodup) :
    ∃ new, w.Grew (s.perform w step) new (s.heldUntil w step) := by
  cases step with
  | inTurn timeout queries =>
    exact ⟨_, World.grew_run s.backend on distinct (Flight.onward_awaitInTurn timeout)⟩
  | together queries =>
    exact ⟨_, World.grew_run s.backend on distinct (Flight.onward_awaitTogether s.timeout)⟩
  | byHandle queries actions =>
    obtain ⟨new, grew, -⟩ := (Batch.resting_submit on distinct).actAll s.backend actions
    exact ⟨new, grew⟩
  | call c =>
    have grew := World.grew_run s.backend on distinct (c.onward_await s.timeout)
    rw [batch, ← world_answer] at grew
    exact ⟨_, grew⟩

theorem continues_performAll (on : w.cache.isSome) {steps : List Step}
    (distinct : ∀ step ∈ steps, (s.batch step).Nodup) : w.Continues (s.performAll w steps) := by
  induction steps generalizing w with
  | nil => exact .refl on
  | cons step rest ih =>
    rw [List.forall_mem_cons] at distinct
    obtain ⟨new, grew⟩ := exists_grew_perform on distinct.1
    exact grew.continues.trans (ih grew.on distinct.2)

/-- Each cached answer was given by an execution of that query, and stays. The next step executes no
cached query, and caches what it executes and what is answered before it is given up. -/
theorem cache_history (s : Service σ) (state : σ) (before later : List Step) (step : Step)
    (distinct : ∀ other ∈ before ++ step :: later, (s.batch other).Nodup) :
    let w := s.performAll ⟨state, some .empty, []⟩ before
    let after := s.perform w step
    (∀ q a, w.cached? q = some a →
      ∃ e ∈ w.executions, e.query = q ∧ e.course.outcome = .ok a ∧ e.course.latency.isSome) ∧
    (∀ q a, w.cached? q = some a → after.cached? q = some a ∧
      (s.performAll after later).cached? q = some a) ∧
    ∃ new, after.executions = w.executions ++ new ∧ (new.map (·.query)).Nodup ∧
      (∀ e ∈ new, w.cached? e.query = none) ∧
      ∀ q a, after.cached? q = some a ↔ w.cached? q = some a ∨
        ∃ e ∈ new, e.query = q ∧ e.course.outcome = .ok a ∧
          ∃ due, e.course.latency = some due ∧ (s.heldUntil w step q).includes due := by
  rw [List.forall_mem_append, List.forall_mem_cons] at distinct
  obtain ⟨distinctBefore, distinctStep, distinctLater⟩ := distinct
  intro w after
  have run : World.Continues ⟨state, some .empty, []⟩ w := continues_performAll rfl distinctBefore
  have recorded : w.Recorded := run.recorded fun q a known => by simp [World.cached?] at known
  obtain ⟨new, grew⟩ := exists_grew_perform run.on distinctStep
  have rest := continues_performAll grew.on distinctLater
  refine ⟨recorded, ?_, new, grew.executions, grew.once, grew.uncached, ?_⟩
  · intro q a known
    have stays := grew.continues.kept q a known
    exact ⟨stays, rest.kept q a stays⟩
  · intro q a
    rw [grew.cached?_eq_some]
    simp only [Course.answerAt?_eq_some]

/-- A service whose backend counts the queries it gets. Each takes five milliseconds longer than the
one before, and the second one panics. -/
def faltering : Service Nat where
  backend := ⟨fun n q => (⟨some (5000000 * n), if n = 1 then .error (.backend (.panicked "boom"))
    else .ok ⟨q.functions, q.groupBy.toList, []⟩⟩, n + 1)⟩
  evaluator := .naming
  timeout := .second
  topK := 1

-- The last query of the second batch would be answered just when the wait for it is over.
theorem cache_history_faltering :
    let first := Step.together (bucketTotals [0, 1, 2])
    let second := Step.byHandle (bucketTotals [0, 1, 2]) [.wait 2 { secs := 0, nanos := 20000000 }]
    let w := faltering.performAll ⟨0, some .empty, []⟩ [first]
    let after := faltering.perform w second
    let known (v : World Nat) := (bucketTotals [0, 1, 2]).map fun q => (v.cached? q).isSome
    (∀ other ∈ [first, second], (faltering.batch other).Nodup) ∧
    (w.executions.map (·.course.latency), after.executions.map (·.course.latency)) =
      ([some 0, some 5000000, some 10000000],
        [some 0, some 5000000, some 10000000, some 15000000, some 20000000]) ∧
    known w = [true, false, false] ∧ known after = [true, true, false] ∧
    ∀ q a, w.cached? q = some a → after.cached? q = some a ∧
      ∃ e ∈ w.executions, e.query = q ∧ e.course.outcome = .ok a ∧ e.course.latency.isSome := by
  intro first second w after known
  have distinct : (bucketTotals [0, 1, 2]).Nodup := by decide
  have all : ∀ other ∈ [first, second], (faltering.batch other).Nodup := by
    simpa [first, second, batch] using distinct
  obtain ⟨recorded, kept, -⟩ := cache_history faltering 0 [first] [] second all
  refine ⟨all, ?_, ?_, ?_, fun q a known => ⟨(kept q a known).1, recorded q a known⟩⟩
  · decide +kernel
  · decide +kernel
  · decide +kernel

end Service

end PeriodCompare
