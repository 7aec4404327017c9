import PeriodCompare.Proofs.Cache

set_option autoImplicit false

namespace PeriodCompare

def Backend.Follows {σ : Type} (backend : Backend σ) (course : Query → Course) : Prop :=
  ∀ state q, (backend.execute state q).1 = course q

def Course.Prompt (c : Course) : Prop :=
  c.latency = none ∨ c.latency = some 0

theorem Course.Prompt.answerAt? {c : Course} (prompt : c.Prompt) {m : Moment}
    (after : Moment.start.horizon ≤ m.horizon) : c.answerAt? m = c.answerAt? .start := by
  rcases prompt with never | atOnce
  · simp [Course.answerAt?, never]
  · have early : m.includes 0 := Moment.includes_iff.2 after
    have atStart : Moment.start.includes 0 := rfl
    simp [Course.answerAt?, atOnce, early, atStart]

theorem Course.Prompt.eq_of_answerAt? {c : Course} (prompt : c.Prompt) {m : Moment} {a : Answer}
    (answered : c.answerAt? m = some a) : c = ⟨some 0, .ok a⟩ := by
  rcases c with ⟨latency, outcome⟩
  obtain rfl | rfl : latency = none ∨ latency = some 0 := prompt
  · simp [Course.answerAt?] at answered
  · cases outcome with
    | error e => simp [Course.answerAt?, Except.toOption] at answered
    | ok b =>
      have same := (Option.ite_none_right_eq_some.1 answered).2
      rw [Option.some.inj same]

def Course.atOnce (a : Answer) : Course :=
  ⟨some 0, .ok a⟩

theorem Course.prompt_atOnce (a : Answer) : (Course.atOnce a).Prompt :=
  .inr rfl

section AtOnce

variable {timeout : Duration} {flights : List Flight} {respond : Query → Answer}
  {queries : List Query}

def Flight.gathered (flights : List Flight) : Checked (List (Query × Answer)) :=
  flights.mapM fun f => f.outcome.map (f.query, ·)

theorem Flight.gathered_cons (f : Flight) (rest : List Flight) :
    gathered (f :: rest) =
      f.outcome >>= fun a => (gathered rest).map ((f.query, a) :: ·) := by
  rw [gathered, List.mapM_cons]
  cases f.outcome with
  | error e => rfl
  | ok a =>
    change (gathered rest >>= fun pairs => pure ((f.query, a) :: pairs)) = _
    cases gathered rest <;> rfl

theorem Flight.wait_of_atOnce {f : Flight} (atOnce : f.due = some 0) :
    f.wait timeout .start = (.start, f.outcome) := by
  simp [wait, doneBy, atOnce, Moment.start, Moment.includes]

theorem awaitInTurn_of_atOnce (atOnce : ∀ f ∈ flights, f.due = some 0) :
    awaitInTurn timeout .start flights = (.start, Flight.gathered flights) := by
  induction flights with
  | nil => rfl
  | cons f rest ih =>
    rw [List.forall_mem_cons] at atOnce
    rw [awaitInTurn, Flight.wait_of_atOnce atOnce.1, Flight.gathered_cons]
    cases f.outcome with
    | error e => rfl
    | ok a =>
      simp only [ih atOnce.2]
      rfl

theorem awaitInOrder_of_atOnce (atOnce : ∀ f ∈ flights, f.due = some 0) :
    awaitInOrder timeout 0 flights = (.start, Flight.gathered flights) := by
  induction flights with
  | nil => rfl
  | cons f rest ih =>
    rw [List.forall_mem_cons] at atOnce
    rw [awaitInOrder, Flight.wait_of_atOnce atOnce.1, Flight.gathered_cons]
    cases f.outcome with
    | error e => rfl
    | ok a =>
      have later : awaitInOrder timeout (max 0 Moment.start.clock) rest = _ := ih atOnce.2
      simp only [later]
      rfl

theorem earliest_of_tied {failures : List (Nat × Failure)} (tied : ∀ p ∈ failures, p.1 = 0) :
    earliest failures = failures.head? := by
  induction failures with
  | nil => rfl
  | cons first rest ih =>
    rw [List.forall_mem_cons] at tied
    rw [earliest, ih tied.2, List.head?_cons]
    cases rest with
    | nil => rfl
    | cons next _ => simp [tied.1, tied.2 next List.mem_cons_self]

theorem lastDue_of_atOnce (atOnce : ∀ f ∈ flights, f.due = some 0) : lastDue flights = 0 := by
  unfold lastDue
  induction flights with
  | nil => rfl
  | cons f rest ih =>
    rw [List.forall_mem_cons] at atOnce
    rw [List.foldl_cons, atOnce.1]
    exact ih atOnce.2

theorem awaitEarliest_of_atOnce (positive : 0 < timeout.toNanos)
    (atOnce : ∀ f ∈ flights, f.due = some 0) :
    awaitEarliest timeout flights = (.start, Flight.gathered flights) := by
  have tied : ∀ p ∈ flights.filterMap (·.failure? timeout), p.1 = 0 := by
    intro p member
    obtain ⟨f, started, failed⟩ := List.mem_filterMap.1 member
    rw [Flight.failure?_of_inTime (atOnce f started) positive, Option.map_eq_some_iff] at failed
    obtain ⟨e, -, rfl⟩ := failed
    rfl
  -- Of failures at one time the first counts, as it does for queries waited for in turn.
  rw [awaitEarliest, earliest_of_tied tied, lastDue_of_atOnce atOnce, List.head?_filterMap]
  clear tied
  induction flights with
  | nil => rfl
  | cons f rest ih =>
    rw [List.forall_mem_cons] at atOnce
    have later := ih atOnce.2
    rw [List.findSome?_cons, Flight.failure?_of_inTime atOnce.1 positive, Flight.gathered_cons]
    cases outcome : f.outcome with
    | error e => exact Prod.ext (congrArg (Moment.mk 0) (decide_eq_true positive)) rfl
    | ok a =>
      have answer : f.answer? = some (f.query, a) := by
        simp [Flight.answer?, outcome, Except.toOption]
      rw [List.filterMap_cons_some answer]
      rw [Checked.ok_bind]
      cases found : rest.findSome? (·.failure? timeout) with
      | some failure =>
        rw [found] at later
        obtain ⟨zero, failed⟩ := Prod.mk.inj later
        rw [← failed]
        exact Prod.ext zero rfl
      | none =>
        rw [found] at later
        rw [← (Prod.mk.inj later).2]
        rfl

theorem awaitTogether_of_atOnce (positive : 0 < timeout.toNanos)
    (atOnce : ∀ f ∈ flights, f.due = some 0) :
    awaitTogether timeout flights = (.start, Flight.gathered flights) := by
  unfold awaitTogether
  split
  · exact awaitEarliest_of_atOnce positive atOnce
  · exact awaitInOrder_of_atOnce atOnce

theorem gathered_atOnce :
    Flight.gathered (queries.map fun q => (Course.atOnce (respond q)).flight q) =
      .ok (queries.map fun q => (q, respond q)) := by
  induction queries with
  | nil => rfl
  | cons q rest ih =>
    rw [List.map_cons, Flight.gathered_cons, ih]
    rfl

theorem awaitInTurn_atOnce :
    (awaitInTurn timeout .start (queries.map fun q => (Course.atOnce (respond q)).flight q)).2 =
      .ok (queries.map fun q => (q, respond q)) := by
  rw [awaitInTurn_of_atOnce (by simp [Course.atOnce, Course.flight]), gathered_atOnce]

theorem awaitTogether_atOnce (positive : 0 < timeout.toNanos) :
    (awaitTogether timeout (queries.map fun q => (Course.atOnce (respond q)).flight q)).2 =
      .ok (queries.map fun q => (q, respond q)) := by
  rw [awaitTogether_of_atOnce positive (by simp [Course.atOnce, Course.flight]), gathered_atOnce]

end AtOnce

namespace World

variable {σ : Type} {backend : Backend σ} {w : World σ} {course : Query → Course}

/-- Whatever is cached is what the backend answers at once. -/
def Steady (course : Query → Course) (w : World σ) : Prop :=
  ∀ q a, w.cached? q = some a → course q = ⟨some 0, .ok a⟩

theorem steady_of_empty (empty : ∀ q, w.cached? q = none) : w.Steady course :=
  fun q a known => by simp [empty] at known

theorem Steady.keep (steady : w.Steady course) {q : Query} (prompt : (course q).Prompt)
    (m : Moment) : (keep m w ((course q).flight q)).Steady course := by
  rw [keep_eq]
  cases answered : ((course q).flight q).course.answerAt? m with
  | none => exact steady
  | some answer =>
    intro other a known
    rcases cached?_store known with ⟨rfl, rfl⟩ | before
    · exact prompt.eq_of_answerAt? answered
    · exact steady other a before

theorem Steady.start (steady : w.Steady course) (follows : backend.Follows course)
    (prompt : ∀ q, (course q).Prompt) (q : Query) :
    (w.start backend q).1 = (course q).flight q ∧ (w.start backend q).2.Steady course := by
  cases known : w.cached? q with
  | some a =>
    rw [start_of_cached known, steady q a known]
    exact ⟨rfl, steady⟩
  | none =>
    have sent : (w.sent backend q).Steady course := fun other a found => steady other a found
    rw [start_of_missing known, follows]
    exact ⟨rfl, sent.keep (prompt q) .start⟩

theorem Steady.startAll (steady : w.Steady course) (follows : backend.Follows course)
    (prompt : ∀ q, (course q).Prompt) (queries : List Query) :
    (w.startAll backend queries).1 = queries.map fun q => (course q).flight q := by
  induction queries generalizing w with
  | nil => rfl
  | cons q rest ih =>
    obtain ⟨flight, next⟩ := steady.start follows prompt q
    simp only [World.startAll, List.map_cons, flight, ih next]

theorem Steady.run_congr {v : World σ} (steady : w.Steady course) (steadyToo : v.Steady course)
    (follows : backend.Follows course) (prompt : ∀ q, (course q).Prompt) (timeout : Duration)
    (await : List Flight → Moment × Checked (List (Query × Answer))) (queries : List Query) :
    (w.run backend timeout await queries).1 = (v.run backend timeout await queries).1 := by
  cases queries with
  | nil => rfl
  | cons q rest =>
    simp only [run, steady.startAll follows prompt, steadyToo.startAll follows prompt]
    split <;> rfl

theorem Reached.steady (reached : w.Reached backend) (follows : backend.Follows course)
    (prompt : ∀ q, (course q).Prompt) : w.Steady course := by
  obtain ⟨flights, underway⟩ := reached
  have both : w.Steady course ∧ ∀ f ∈ flights, ∃ q, f = (course q).flight q := by
    induction underway with
    | fresh w nothing => exact ⟨steady_of_empty nothing, by simp⟩
    | start q _ ih =>
      obtain ⟨flight, steady⟩ := ih.1.start follows prompt q
      exact ⟨steady, List.forall_mem_cons.2 ⟨⟨q, flight⟩, ih.2⟩⟩
    | keep m _ started ih =>
      obtain ⟨q, rfl⟩ := ih.2 _ started
      exact ⟨ih.1.keep (prompt q) m, ih.2⟩
  exact both.1

end World

end PeriodCompare
