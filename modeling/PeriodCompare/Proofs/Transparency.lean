import PeriodCompare.Proofs.Prompt
import PeriodCompare.Proofs.Scope

set_option autoImplicit false

namespace PeriodCompare

def Execution.succeeded (e : Execution) : Bool :=
  e.course.latency.isSome && e.course.outcome.toOption.isSome

theorem Course.Prompt.isSome_answerAt? {e : Execution} (prompt : e.course.Prompt) :
    (e.course.answerAt? .start).isSome = e.succeeded := by
  rcases e with ⟨q, latency, outcome⟩
  obtain rfl | rfl : latency = none ∨ latency = some 0 := prompt <;>
    simp [Course.answerAt?, Execution.succeeded, Moment.includes, Moment.start]

namespace World

variable {σ : Type} {backend : Backend σ} {w on off : World σ} {course : Query → Course}
  {timeout : Duration} {queries : List Query}

def hasAnswered (w : World σ) (q : Query) : Bool :=
  w.executions.any fun e => e.query = q && e.succeeded

theorem received_of_hasAnswered {q : Query} (answered : w.hasAnswered q = true) :
    q ∈ w.received := by
  simp only [hasAnswered, List.any_eq_true, Bool.and_eq_true, decide_eq_true_eq] at answered
  obtain ⟨e, member, rfl, -⟩ := answered
  exact List.mem_map_of_mem member

theorem hasAnswered_of_append {after : World σ} {new : List Execution}
    (executions : after.executions = w.executions ++ new) (q : Query) :
    after.hasAnswered q = (w.hasAnswered q || new.any fun e => e.query = q && e.succeeded) := by
  simp only [hasAnswered, executions, List.any_append]

def executesAll (course : Query → Course) (timeout : Duration) (queries : List Query) :
    List Execution :=
  if timeout.toNanos = 0 then [] else queries.map fun q => ⟨q, course q⟩

theorem honest_executesAll :
    ∀ e ∈ executesAll course timeout queries, e.course = course e.query := by
  unfold executesAll
  split <;> simp

theorem Steady.executedIn (steady : w.Steady course) (follows : backend.Follows course)
    (prompt : ∀ q, (course q).Prompt) :
    w.executedIn backend timeout queries =
      (executesAll course timeout queries).filter fun e => (w.cached? e.query).isNone := by
  unfold World.executedIn executesAll
  split
  · rfl
  · rw [steady.startAll follows prompt, missed, List.filter_map, List.filter_map, List.map_map]
    rfl

/-- The world with a cache is where the one without would be, had it kept what it was answered. -/
structure Mirrors (course : Query → Course) (on off : World σ) : Prop where
  caching : on.cache.isSome
  bare : off.cache = none
  honest : ∀ e ∈ off.executions, e.course = course e.query
  known : ∀ q, on.cached? q = if q ∈ off.received then (course q).answerAt? .start else none
  answered : ∀ q, on.hasAnswered q = off.hasAnswered q

theorem mirrors_start (state other : σ) :
    Mirrors course ⟨state, some .empty, []⟩ ⟨other, none, []⟩ where
  caching := rfl
  bare := rfl
  honest := by simp
  known := fun _ => rfl
  answered := fun _ => rfl

namespace Mirrors

theorem steady_on (mirrors : Mirrors course on off) (prompt : ∀ q, (course q).Prompt) :
    on.Steady course := by
  intro q a known
  rw [mirrors.known q] at known
  split at known
  · exact (prompt q).eq_of_answerAt? known
  · simp at known

theorem cached?_off (mirrors : Mirrors course on off) (q : Query) : off.cached? q = none := by
  simp [cached?, mirrors.bare]

theorem steady_off (mirrors : Mirrors course on off) : off.Steady course :=
  steady_of_empty mirrors.cached?_off

theorem isSome_cached? (mirrors : Mirrors course on off) (prompt : ∀ q, (course q).Prompt)
    (q : Query) : (on.cached? q).isSome = off.hasAnswered q := by
  have succeeded (e : Execution) (member : e ∈ off.executions) :
      ((course e.query).answerAt? .start).isSome = e.succeeded := by
    have honest := mirrors.honest e member
    rw [← honest]
    exact Course.Prompt.isSome_answerAt? (honest ▸ prompt e.query)
  rw [Bool.eq_iff_iff, mirrors.known q]
  simp only [hasAnswered, List.any_eq_true, Bool.and_eq_true, decide_eq_true_eq]
  constructor
  · intro known
    split at known
    next received =>
      obtain ⟨e, member, rfl⟩ := List.mem_map.1 received
      exact ⟨e, member, rfl, succeeded e member ▸ known⟩
    · simp at known
  · rintro ⟨e, member, rfl, answered⟩
    have received : e.query ∈ off.received := List.mem_map_of_mem member
    rw [if_pos received, succeeded e member]
    exact answered

theorem executedIn_off (mirrors : Mirrors course on off) (follows : backend.Follows course)
    (prompt : ∀ q, (course q).Prompt) (timeout : Duration) (queries : List Query) :
    off.executedIn backend timeout queries = executesAll course timeout queries := by
  simp only [mirrors.steady_off.executedIn follows prompt, mirrors.cached?_off,
    Option.isNone_none, List.filter_true]

theorem executedIn_on (mirrors : Mirrors course on off) (follows : backend.Follows course)
    (prompt : ∀ q, (course q).Prompt) (timeout : Duration) (queries : List Query) :
    on.executedIn backend timeout queries =
      (executesAll course timeout queries).filter fun e => !off.hasAnswered e.query := by
  simp only [(mirrors.steady_on prompt).executedIn follows prompt, ← mirrors.isSome_cached? prompt,
    Option.not_isSome]

theorem executions_run (mirrors : Mirrors course on off) (follows : backend.Follows course)
    (prompt : ∀ q, (course q).Prompt) (distinct : queries.Nodup) (timeout : Duration)
    (await : List Flight → Moment × Checked (List (Query × Answer))) :
    (off.run backend timeout await queries).2.executions =
        off.executions ++ executesAll course timeout queries ∧
      (on.run backend timeout await queries).2.executions =
        on.executions ++
          (executesAll course timeout queries).filter fun e => !off.hasAnswered e.query := by
  rw [World.executions_run backend _ distinct, World.executions_run backend _ distinct,
    mirrors.executedIn_off follows prompt, mirrors.executedIn_on follows prompt]
  exact ⟨rfl, rfl⟩

theorem known_run (mirrors : Mirrors course on off) (follows : backend.Follows course)
    (prompt : ∀ q, (course q).Prompt) (distinct : queries.Nodup)
    {await : List Flight → Moment × Checked (List (Query × Answer))}
    (onward : Flight.Onward timeout await) (q : Query) :
    (on.run backend timeout await queries).2.cached? q =
      if q ∈ (off.run backend timeout await queries).2.received then (course q).answerAt? .start
      else none := by
  have grew := grew_run backend mirrors.caching distinct onward
  rw [mirrors.executedIn_on follows prompt] at grew
  have received : q ∈ (off.run backend timeout await queries).2.received ↔
      q ∈ off.received ∨ q ∈ (executesAll course timeout queries).map (·.query) := by
    simp only [World.received, (mirrors.executions_run follows prompt distinct timeout await).1,
      List.map_append, List.mem_append]
  -- What is executed without the cache only has been received before, so nothing new is known.
  by_cases inNew : q ∈ ((executesAll course timeout queries).filter
      fun e => !off.hasAnswered e.query).map (·.query)
  · obtain ⟨e, member, rfl⟩ := List.mem_map.1 inNew
    have executed := (List.mem_filter.1 member).1
    have long : timeout.toNanos ≠ 0 := fun zero => by simp [executesAll, zero] at executed
    rw [grew.kept e member, honest_executesAll e executed,
      (prompt e.query).answerAt? (onward long _), if_pos (received.2 (.inr (List.mem_map_of_mem executed)))]
  · have before (asked : q ∈ (executesAll course timeout queries).map (·.query)) :
        q ∈ off.received := by
      obtain ⟨e, executed, rfl⟩ := List.mem_map.1 asked
      by_contra unknown
      have spared : (!off.hasAnswered e.query) = true := by
        simpa using mt received_of_hasAnswered unknown
      exact inNew (List.mem_map_of_mem (List.mem_filter.2 ⟨executed, spared⟩))
    have still := received.trans (or_iff_left_of_imp before)
    simp only [grew.others q inNew, mirrors.known q, still]

theorem hasAnswered_run (mirrors : Mirrors course on off) (follows : backend.Follows course)
    (prompt : ∀ q, (course q).Prompt) (distinct : queries.Nodup) (timeout : Duration)
    (await : List Flight → Moment × Checked (List (Query × Answer))) (q : Query) :
    (on.run backend timeout await queries).2.hasAnswered q =
      (off.run backend timeout await queries).2.hasAnswered q := by
  obtain ⟨executionsOff, executionsOn⟩ :=
    mirrors.executions_run follows prompt distinct timeout await
  rw [hasAnswered_of_append executionsOff, hasAnswered_of_append executionsOn, mirrors.answered q]
  cases answered : off.hasAnswered q with
  | true => rfl
  | false =>
    rw [Bool.false_or, Bool.false_or, List.any_filter]
    congr 1
    funext e
    by_cases same : e.query = q
    · simp [same, answered]
    · simp [same]

theorem run (mirrors : Mirrors course on off) (follows : backend.Follows course)
    (prompt : ∀ q, (course q).Prompt) (distinct : queries.Nodup)
    {await : List Flight → Moment × Checked (List (Query × Answer))}
    (onward : Flight.Onward timeout await) :
    Mirrors course (on.run backend timeout await queries).2
      (off.run backend timeout await queries).2 where
  caching := (grew_run backend mirrors.caching distinct onward).on
  bare := by
    have off := isSome_cache_run backend off distinct timeout await
    simpa [mirrors.bare] using off
  honest := by
    rw [(mirrors.executions_run follows prompt distinct timeout await).1]
    exact List.forall_mem_append.2 ⟨mirrors.honest, honest_executesAll⟩
  known := mirrors.known_run follows prompt distinct onward
  answered := mirrors.hasAnswered_run follows prompt distinct timeout await

end Mirrors

theorem Steady.ownBuckets (steady : w.Steady course) (follows : backend.Follows course)
    (prompt : ∀ q, (course q).Prompt)
    (unstamped : ∀ q a, (course q).outcome = .ok a → ∀ row ∈ a.rows, row.bucket = none)
    {await : List Flight → Moment × Checked (List (Query × Answer))} (gathers : Flight.Gathers await)
    {answers : Answers} (ran : (w.run backend timeout await queries).1 = .ok answers) :
    OwnBuckets answers.entries := by
  obtain ⟨pairs, rfl, all⟩ := forall₂_of_run gathers ran
  rw [steady.startAll follows prompt] at all
  intro pair member row inRows
  obtain ⟨f, started, -, outcome⟩ :=
    Flight.exists_of_answers all (Table.mem_of_mem_entries_ofList member)
  obtain ⟨q, -, rfl⟩ := List.mem_map.1 started
  exact .inl (unstamped q pair.2 outcome row inRows)

end World

namespace Service

variable {σ : Type} {s : Service σ} {on off : World σ} {course : Query → Course}

theorem mirrors_answer (mirrors : World.Mirrors course on off) (follows : s.backend.Follows course)
    (prompt : ∀ q, (course q).Prompt) {c : Call} (distinct : c.scope.groupBy.Nodup) :
    World.Mirrors course (s.answer on c).2 (s.answer off c).2 := by
  rw [world_answer, world_answer]
  exact mirrors.run follows prompt (nodup_asks distinct) (c.onward_await s.timeout)

theorem mirrors_answerAll (mirrors : World.Mirrors course on off)
    (follows : s.backend.Follows course) (prompt : ∀ q, (course q).Prompt) {calls : List Call}
    (distinct : ∀ c ∈ calls, c.scope.groupBy.Nodup) :
    World.Mirrors course (s.answerAll on calls) (s.answerAll off calls) := by
  induction calls generalizing on off with
  | nil => exact mirrors
  | cons c rest ih =>
    rw [List.forall_mem_cons] at distinct
    exact ih (mirrors_answer mirrors follows prompt distinct.1) distinct.2

/-- A cache changes no answer. It spares the queries that an earlier call has executed with success.
-/
theorem cache_transparent (s : Service σ) (follows : s.backend.Follows course)
    (prompt : ∀ q, (course q).Prompt)
    (unstamped : ∀ q a, (course q).outcome = .ok a → ∀ row ∈ a.rows, row.bucket = none)
    (calls : List Call) (c : Call)
    (distinct : ∀ call ∈ calls ++ [c], call.scope.groupBy.Nodup) (state other : σ)
    {order reorder : Answers → List (Query × Answer)}
    (orders : ∀ answers, (order answers).Perm answers.entries)
    (reorders : ∀ answers, (reorder answers).Perm answers.entries) :
    let on := s.answerAll ⟨state, some .empty, []⟩ calls
    let off := s.answerAll ⟨other, none, []⟩ calls
    (s.answerBy order on c).1 = (s.answerBy reorder off c).1 ∧
    (∀ q, on.hasAnswered q = off.hasAnswered q) ∧
    ∃ executed, (s.answer off c).2.executions = off.executions ++ executed ∧
      (s.answer on c).2.executions =
        on.executions ++ executed.filter fun e => !on.hasAnswered e.query := by
  rw [List.forall_mem_append, List.forall_mem_singleton] at distinct
  intro on off
  have mirrors : World.Mirrors course on off :=
    mirrors_answerAll (World.mirrors_start state other) follows prompt distinct.1
  refine ⟨?_, mirrors.answered, ?_⟩
  · have same := mirrors.steady_off.run_congr (mirrors.steady_on prompt) follows prompt s.timeout
      (c.await s.timeout) (s.asks c)
    refine answerBy_congr same (fun answers ran => ?_) orders reorders
    exact (mirrors.steady_on prompt).ownBuckets follows prompt unstamped
      (c.gathers_await s.timeout) ran
  · obtain ⟨executionsOff, executionsOn⟩ := mirrors.executions_run follows prompt
      (nodup_asks distinct.2) s.timeout (c.await s.timeout)
    simp only [world_answer, mirrors.answered]
    exact ⟨_, executionsOff, executionsOn⟩

def wavering (q : Query) : Course :=
  if q.groupBy = some "city" then ⟨none, .ok .empty⟩
  else if q.groupBy = some "region" then ⟨some 0, .error (.backend (.panicked "task 4 panicked"))⟩
  else ⟨some 0, .ok ⟨q.functions, q.groupBy.toList, [⟨none, ["DE"], [1.0]⟩]⟩⟩

def waveringService : Service Unit where
  backend := .pure wavering
  evaluator := .naming
  timeout := .second
  topK := 1

theorem cache_transparent_wavering :
    let calls := [Call.breakdown (.orderTotals ["country", "city"]), .totals (.orderTotals [])]
    let on := waveringService.answerAll ⟨(), some .empty, []⟩ calls
    let off := waveringService.answerAll ⟨(), none, []⟩ calls
    let next := Call.breakdown (.orderTotals ["country", "region"])
    (∀ q, (wavering q).Prompt) ∧ (∀ call ∈ calls ++ [next], call.scope.groupBy.Nodup) ∧
    (waveringService.answerBy Table.entries on next).1 =
      (waveringService.answerBy (·.entries.reverse) off next).1 ∧
    (on.executions.length, (waveringService.answer on next).2.executions.length) = (6, 8) ∧
    (off.executions.length, (waveringService.answer off next).2.executions.length) = (6, 10) := by
  have prompt : ∀ q, (wavering q).Prompt := by
    intro q
    unfold wavering
    split
    · exact .inl rfl
    · split <;> exact .inr rfl
  have unstamped : ∀ q a, (wavering q).outcome = .ok a → ∀ row ∈ a.rows, row.bucket = none := by
    intro q a outcome
    unfold wavering at outcome
    split at outcome
    · obtain rfl := Except.ok.inj outcome
      simp [Answer.empty]
    · split at outcome
      · simp at outcome
      · obtain rfl := Except.ok.inj outcome
        simp
  have distinct : ∀ call ∈ [Call.breakdown (.orderTotals ["country", "city"]),
      .totals (.orderTotals [])] ++ [.breakdown (.orderTotals ["country", "region"])],
      call.scope.groupBy.Nodup := by
    simp [Call.scope, Request.whole, Request.ungrouped, Request.orderTotals]
  exact ⟨prompt, distinct, (cache_transparent waveringService (fun _ _ => rfl) prompt unstamped _ _
    distinct () () (fun _ => .refl _) fun answers => List.reverse_perm _).1, rfl, rfl⟩

end Service

end PeriodCompare
