import Mathlib.Data.List.Forall2
import PeriodCompare.Dispatch.World
import PeriodCompare.Proofs.Checked
import PeriodCompare.Proofs.Table

set_option autoImplicit false

namespace PeriodCompare

theorem Flight.outcome_of_wait {f : Flight} {timeout : Duration} {m done : Moment} {a : Answer}
    (answered : f.wait timeout m = (done, .ok a)) : f.outcome = .ok a := by
  simp only [wait] at answered
  split at answered
  · exact (Prod.mk.inj answered).2
  · split at answered
    · exact (Prod.mk.inj answered).2
    · simp at answered

def Flight.Answers (f : Flight) (pair : Query × Answer) : Prop :=
  pair.1 = f.query ∧ f.outcome = .ok pair.2

namespace Flight

variable {flights : List Flight} {pairs : List (Query × Answer)}

theorem queries_of_answers (all : List.Forall₂ Answers flights pairs) :
    pairs.map (·.1) = flights.map (·.query) := by
  induction all with
  | nil => rfl
  | cons first _ ih => rw [List.map_cons, List.map_cons, first.1, ih]

theorem exists_of_answers (all : List.Forall₂ Answers flights pairs) {pair : Query × Answer}
    (member : pair ∈ pairs) : ∃ f ∈ flights, f.Answers pair := by
  induction all with
  | nil => simp at member
  | @cons f _ _ _ first _ ih =>
    rcases List.mem_cons.1 member with rfl | later
    · exact ⟨f, List.mem_cons_self, first⟩
    · obtain ⟨g, inRest, answers⟩ := ih later
      exact ⟨g, List.mem_cons_of_mem _ inRest, answers⟩

theorem pairs_of_answers {respond : Query → Answer} (all : List.Forall₂ Answers flights pairs)
    (outcomes : ∀ f ∈ flights, f.outcome = .ok (respond f.query)) :
    pairs = flights.map fun f => (f.query, respond f.query) := by
  induction all with
  | nil => rfl
  | @cons f pair _ _ first _ ih =>
    obtain ⟨outcome, outcomes⟩ := List.forall_mem_cons.1 outcomes
    have answer : pair.2 = respond f.query := Except.ok.inj (first.2.symm.trans outcome)
    rw [List.map_cons, ← ih outcomes, ← answer, ← first.1]

end Flight

theorem forall₂_of_awaitInTurn {timeout : Duration} {m done : Moment} {flights : List Flight}
    {pairs : List (Query × Answer)}
    (answered : awaitInTurn timeout m flights = (done, .ok pairs)) :
    List.Forall₂ Flight.Answers flights pairs := by
  induction flights generalizing m done pairs with
  | nil =>
    simp only [awaitInTurn, Prod.mk.injEq, Except.ok.injEq] at answered
    exact answered.2 ▸ .nil
  | cons f rest ih =>
    simp only [awaitInTurn] at answered
    rcases waited : f.wait timeout m with ⟨middle, e | answer⟩
    · simp [waited] at answered
    · rcases later : awaitInTurn timeout middle rest with ⟨final, e | others⟩
      · simp [waited, later, Except.map] at answered
      · simp only [waited, later, Except.map, Prod.mk.injEq, Except.ok.injEq] at answered
        obtain ⟨-, rfl⟩ := answered
        exact .cons ⟨rfl, Flight.outcome_of_wait waited⟩ (ih later)

theorem forall₂_of_awaitInOrder {timeout : Duration} {clock : Nat} {done : Moment}
    {flights : List Flight} {pairs : List (Query × Answer)}
    (answered : awaitInOrder timeout clock flights = (done, .ok pairs)) :
    List.Forall₂ Flight.Answers flights pairs := by
  induction flights generalizing clock done pairs with
  | nil =>
    simp only [awaitInOrder, Prod.mk.injEq, Except.ok.injEq] at answered
    exact answered.2 ▸ .nil
  | cons f rest ih =>
    simp only [awaitInOrder] at answered
    rcases waited : f.wait timeout .start with ⟨middle, e | answer⟩
    · simp [waited] at answered
    · rcases later : awaitInOrder timeout (max clock middle.clock) rest with ⟨final, e | others⟩
      · simp [waited, later, Except.map] at answered
      · simp only [waited, later, Except.map, Prod.mk.injEq, Except.ok.injEq] at answered
        obtain ⟨-, rfl⟩ := answered
        exact .cons ⟨rfl, Flight.outcome_of_wait waited⟩ (ih later)

theorem eq_nil_of_earliest {failures : List (Nat × Failure)} (nothing : earliest failures = none) :
    failures = [] := by
  cases failures with
  | nil => rfl
  | cons first rest =>
    simp only [earliest] at nothing
    split at nothing
    · simp at nothing
    · split at nothing <;> simp at nothing

theorem Flight.failure?_of_inTime {f : Flight} {timeout : Duration} {due : Nat}
    (completes : f.due = some due) (inTime : due < timeout.toNanos) :
    f.failure? timeout = f.outcome.failure?.map (due, ·) := by
  have filtered : f.due.filter (· < timeout.toNanos) = some due := by
    simp [completes, Option.filter, inTime]
  rw [failure?, filtered]
  cases f.outcome <;> rfl

theorem Flight.exists_outcome_of_failure? {f : Flight} {timeout : Duration}
    (nothing : f.failure? timeout = none) : ∃ a, f.outcome = .ok a := by
  simp only [failure?] at nothing
  split at nothing
  · simp at nothing
  · split at nothing
    · exact ⟨_, ‹_›⟩
    · simp at nothing

theorem forall₂_of_awaitEarliest {timeout : Duration} {done : Moment} {flights : List Flight}
    {pairs : List (Query × Answer)}
    (answered : awaitEarliest timeout flights = (done, .ok pairs)) :
    List.Forall₂ Flight.Answers flights pairs := by
  unfold awaitEarliest at answered
  split at answered
  · simp at answered
  next nothing =>
    obtain ⟨-, rfl⟩ : _ ∧ flights.filterMap Flight.answer? = pairs := by simpa using answered
    have none := List.filterMap_eq_nil_iff.1 (eq_nil_of_earliest nothing)
    clear answered nothing
    induction flights with
    | nil => exact .nil
    | cons f rest ih =>
      rw [List.forall_mem_cons] at none
      obtain ⟨a, outcome⟩ := Flight.exists_outcome_of_failure? none.1
      have answer : f.answer? = some (f.query, a) := by
        simp [Flight.answer?, outcome, Except.toOption]
      rw [List.filterMap_cons_some answer]
      exact .cons ⟨rfl, outcome⟩ (ih none.2)

theorem forall₂_of_awaitTogether {timeout : Duration} {done : Moment} {flights : List Flight}
    {pairs : List (Query × Answer)}
    (answered : awaitTogether timeout flights = (done, .ok pairs)) :
    List.Forall₂ Flight.Answers flights pairs := by
  unfold awaitTogether at answered
  split at answered
  · exact forall₂_of_awaitEarliest answered
  · exact forall₂_of_awaitInOrder answered

def Flight.Gathers (await : List Flight → Moment × Checked (List (Query × Answer))) : Prop :=
  ∀ {flights done pairs}, await flights = (done, .ok pairs) →
    List.Forall₂ Flight.Answers flights pairs

namespace World

variable {σ : Type} {backend : Backend σ} {w : World σ} {q : Query}

theorem start_query : (w.start backend q).1.query = q := by
  unfold start
  cases w.cached? q <;> rfl

theorem startAll_queries (backend : Backend σ) (w : World σ) (queries : List Query) :
    (w.startAll backend queries).1.map (·.query) = queries := by
  induction queries generalizing w with
  | nil => rfl
  | cons q rest ih => simp [startAll, start_query, ih]

theorem forall₂_of_run {timeout : Duration} {queries : List Query} {answers : Answers}
    {await : List Flight → Moment × Checked (List (Query × Answer))} (gathers : Flight.Gathers await)
    (answered : (w.run backend timeout await queries).1 = .ok answers) :
    ∃ pairs, answers = .ofList pairs ∧
      List.Forall₂ Flight.Answers (w.startAll backend queries).1 pairs := by
  cases queries with
  | nil =>
    obtain rfl := Except.ok.inj answered
    exact ⟨[], rfl, .nil⟩
  | cons q rest =>
    simp only [run] at answered
    split at answered
    · simp at answered
    · rcases awaited : await (w.startAll backend (q :: rest)).1 with ⟨done, outcome⟩
      simp only [awaited, Checked.map_eq_ok] at answered
      obtain ⟨pairs, rfl, rfl⟩ := answered
      exact ⟨pairs, rfl, gathers awaited⟩

theorem keys_of_run {timeout : Duration} {queries : List Query} {answers : Answers}
    {await : List Flight → Moment × Checked (List (Query × Answer))} (gathers : Flight.Gathers await)
    (answered : (w.run backend timeout await queries).1 = .ok answers) :
    ∃ pairs, answers = .ofList pairs ∧ pairs.map (·.1) = queries := by
  obtain ⟨pairs, same, all⟩ := forall₂_of_run gathers answered
  exact ⟨pairs, same, (Flight.queries_of_answers all).trans (startAll_queries backend w queries)⟩

theorem keys_of_runInTurn {timeout : Duration} {queries : List Query} {answers : Answers}
    (answered : (w.runInTurn backend timeout queries).1 = .ok answers) :
    ∃ pairs, answers = .ofList pairs ∧ pairs.map (·.1) = queries :=
  keys_of_run forall₂_of_awaitInTurn answered

/-- The worlds that a backend and its cache may come to, each with the queries started so far: any
query may start, and any one that started may complete, at any time. -/
inductive Underway (backend : Backend σ) : World σ → List Flight → Prop where
  | fresh (w : World σ) (nothing : ∀ q, w.cached? q = none) : Underway backend w []
  | start {w : World σ} {flights : List Flight} (q : Query) (before : Underway backend w flights) :
    Underway backend (w.start backend q).2 ((w.start backend q).1 :: flights)
  | keep {w : World σ} {flights : List Flight} {f : Flight} (m : Moment)
    (before : Underway backend w flights) (started : f ∈ flights) :
    Underway backend (keep m w f) flights

def Reached (backend : Backend σ) (w : World σ) : Prop :=
  ∃ flights, Underway backend w flights

theorem Underway.startAll {flights : List Flight} (before : Underway backend w flights)
    (queries : List Query) :
    ∃ all, Underway backend (w.startAll backend queries).2 all ∧
      (∀ f ∈ (w.startAll backend queries).1, f ∈ all) ∧ ∀ f ∈ flights, f ∈ all := by
  induction queries generalizing w flights with
  | nil => exact ⟨flights, before, by simp [World.startAll], fun f member => member⟩
  | cons q rest ih =>
    obtain ⟨all, reached, inRest, earlier⟩ := ih (before.start q)
    refine ⟨all, reached, ?_, fun f member => earlier f (List.mem_cons_of_mem _ member)⟩
    intro f member
    rcases List.mem_cons.1 member with rfl | member
    · exact earlier _ List.mem_cons_self
    · exact inRest f member

theorem Underway.keepAll {all : List Flight} (before : Underway backend w all) (m : Moment)
    {flights : List Flight} (started : ∀ f ∈ flights, f ∈ all) :
    Underway backend (w.keepAll m flights) all := by
  induction flights generalizing w with
  | nil => exact before
  | cons f rest ih =>
    exact ih (before.keep m (started f List.mem_cons_self))
      fun g member => started g (List.mem_cons_of_mem _ member)

theorem Reached.run (reached : w.Reached backend) (timeout : Duration)
    (await : List Flight → Moment × Checked (List (Query × Answer))) (queries : List Query) :
    (w.run backend timeout await queries).2.Reached backend := by
  cases queries with
  | nil => exact reached
  | cons q rest =>
    simp only [World.run]
    split
    · exact reached
    · obtain ⟨flights, before⟩ := reached
      obtain ⟨all, started, inAll, -⟩ := before.startAll (q :: rest)
      exact ⟨all, started.keepAll _ inAll⟩

theorem cached?_store {a b : Answer} {other : Query}
    (found : (w.store q a).cached? other = some b) :
    other = q ∧ b = a ∨ w.cached? other = some b := by
  cases cache : w.cache with
  | none => simp [store, cached?, cache] at found
  | some answers =>
    simp only [store, cached?, cache, Option.map_some, Option.bind_some, Table.get?_insert] at found
    by_cases same : q = other
    · simp only [same, if_true, Option.some.injEq] at found
      exact .inl ⟨same.symm, found.symm⟩
    · exact .inr (by simpa [cached?, cache, same] using found)

theorem cached?_keep {m : Moment} {f : Flight} {other : Query} {b : Answer}
    (found : (keep m w f).cached? other = some b) :
    other = f.query ∧ f.outcome = .ok b ∨ w.cached? other = some b := by
  unfold keep at found
  split at found
  · cases outcome : f.outcome with
    | error e => exact .inr (by simpa [outcome] using found)
    | ok a =>
      rcases cached?_store (by simpa [outcome] using found) with ⟨same, rfl⟩ | before
      · exact .inl ⟨same, rfl⟩
      · exact .inr before
  · exact .inr found

def Truthful {τ : Type} (course : Query → Course) (w : World τ) : Prop :=
  ∀ q a, w.cached? q = some a → (course q).outcome = .ok a

variable {course : Query → Course} {w : World Unit}

theorem Truthful.start_outcome (truthful : w.Truthful course) (q : Query) :
    (w.start (.pure course) q).1.outcome = (course q).outcome := by
  unfold start
  cases known : w.cached? q with
  | none => rfl
  | some a => exact (truthful q a known).symm

theorem Truthful.keep (truthful : w.Truthful course) (m : Moment) {f : Flight}
    (outcome : f.outcome = (course f.query).outcome) : (keep m w f).Truthful course := by
  intro q a found
  rcases cached?_keep found with ⟨rfl, answered⟩ | known
  · exact outcome ▸ answered
  · exact truthful q a known

theorem Truthful.start (truthful : w.Truthful course) (q : Query) :
    (w.start (.pure course) q).2.Truthful course := by
  unfold World.start
  cases known : w.cached? q with
  | none =>
    apply Truthful.keep
    · exact fun other a found => truthful other a found
    · rfl
  | some a => exact truthful

theorem Reached.truthful (reached : w.Reached (.pure course)) : w.Truthful course := by
  obtain ⟨flights, underway⟩ := reached
  -- What is under way may be kept next, so its outcomes belong to the invariant.
  have both : w.Truthful course ∧ ∀ f ∈ flights, f.outcome = (course f.query).outcome := by
    induction underway with
    | fresh w nothing => exact ⟨fun q a found => by simp [nothing] at found, by simp⟩
    | start q _ ih =>
      refine ⟨ih.1.start q, List.forall_mem_cons.2 ⟨?_, ih.2⟩⟩
      rw [start_query, ih.1.start_outcome]
    | keep m _ started ih => exact ⟨ih.1.keep m (ih.2 _ started), ih.2⟩
  exact both.1

theorem Truthful.startAll_outcome {respond : Query → Answer} (truthful : w.Truthful course)
    (answer : ∀ q, (course q).outcome = .ok (respond q)) (queries : List Query) :
    ∀ f ∈ (w.startAll (.pure course) queries).1, f.outcome = .ok (respond f.query) := by
  induction queries generalizing w with
  | nil => simp [startAll]
  | cons q rest ih =>
    simp only [startAll]
    refine List.forall_mem_cons.2 ⟨?_, ih (truthful.start q)⟩
    rw [truthful.start_outcome, answer, start_query]

theorem Truthful.runInTurn {respond : Query → Answer} {timeout : Duration} {queries : List Query}
    {answers : Answers} (truthful : w.Truthful course)
    (answer : ∀ q, (course q).outcome = .ok (respond q))
    (answered : (w.runInTurn (.pure course) timeout queries).1 = .ok answers) :
    answers = .ofList (queries.map fun q => (q, respond q)) := by
  obtain ⟨pairs, rfl, all⟩ := forall₂_of_run forall₂_of_awaitInTurn answered
  have outcomes := truthful.startAll_outcome answer queries
  conv_rhs => rw [← startAll_queries (.pure course) w queries, List.map_map]
  exact congrArg Table.ofList (Flight.pairs_of_answers all outcomes)

end World

end PeriodCompare
