import Mathlib.Data.List.Nodup
import PeriodCompare.Proofs.Run

set_option autoImplicit false

namespace PeriodCompare

def Course.answerAt? (c : Course) (m : Moment) : Option Answer :=
  if c.latency.any m.includes then c.outcome.toOption else none

theorem Course.answerAt?_or (c : Course) {m later : Moment} (after : m.horizon ≤ later.horizon) :
    (c.answerAt? later).or (c.answerAt? m) = c.answerAt? later := by
  rcases c with ⟨_ | due, outcome⟩
  · rfl
  · by_cases early : m.includes due
    · have inTime := Moment.includes_iff.2 (Nat.lt_of_lt_of_le (Moment.includes_iff.1 early) after)
      simp [answerAt?, early, inTime]
    · simp [answerAt?, early]

theorem Course.answerAt?_known (a : Answer) {m : Moment} (after : Moment.start.horizon ≤ m.horizon) :
    (Course.mk (some 0) (.ok a)).answerAt? m = some a :=
  if_pos (Moment.includes_iff.2 after)

def Course.flight (c : Course) (q : Query) : Flight :=
  ⟨q, c.latency, c.outcome⟩

namespace Flight

def course (f : Flight) : Course :=
  ⟨f.due, f.outcome⟩

def execution (f : Flight) : Execution :=
  ⟨f.query, f.course⟩

@[simp] theorem query_execution (f : Flight) : f.execution.query = f.query := rfl

theorem horizon_le_wait (f : Flight) (timeout : Duration) (m : Moment) :
    m.horizon ≤ (f.wait timeout m).1.horizon := by
  simp only [wait]
  split
  · exact Nat.le_refl _
  next running =>
    split
    next due completes =>
      have late : ¬ m.includes due := fun early =>
        running (by simp [doneBy, (Option.filter_eq_some_iff.1 completes).1, early])
      rw [Moment.includes_iff] at late
      simp only [Moment.horizon] at late ⊢
      omega
    · split
      · exact Nat.le_refl _
      · have := Bool.toNat_le m.settled
        simp only [Moment.horizon]
        omega

theorem horizon_le_awaitInTurn (timeout : Duration) (m : Moment) (flights : List Flight) :
    m.horizon ≤ (awaitInTurn timeout m flights).1.horizon := by
  induction flights generalizing m with
  | nil => exact Nat.le_refl _
  | cons f rest ih =>
    have first := f.horizon_le_wait timeout m
    rw [awaitInTurn]
    rcases waited : f.wait timeout m with ⟨middle, e | answer⟩ <;> rw [waited] at first
    · exact first
    · exact Nat.le_trans first (ih middle)

theorem horizon_le_awaitInOrder (timeout : Duration) (clock : Nat) (flights : List Flight) :
    Moment.start.horizon ≤ (awaitInOrder timeout clock flights).1.horizon := by
  induction flights generalizing clock with
  | nil => exact Nat.le_add_left _ _
  | cons f rest ih =>
    have first := f.horizon_le_wait timeout .start
    rw [awaitInOrder]
    rcases waited : f.wait timeout .start with ⟨middle, e | answer⟩ <;> rw [waited] at first
    · exact Nat.le_trans first (Nat.add_le_add_right (Nat.le_max_right _ _) _)
    · exact ih _

-- What is due at the very start has come about when the wait ends.
def Onward (timeout : Duration) (await : List Flight → Moment × Checked (List (Query × Answer))) :
    Prop :=
  timeout.toNanos ≠ 0 → ∀ flights, Moment.start.horizon ≤ (await flights).1.horizon

theorem onward_awaitInTurn (timeout : Duration) : Onward timeout (awaitInTurn timeout .start) :=
  fun _ flights => horizon_le_awaitInTurn timeout .start flights

theorem onward_awaitTogether (timeout : Duration) : Onward timeout (awaitTogether timeout) := by
  intro long flights
  unfold awaitTogether
  split
  · unfold awaitEarliest
    split
    next clock e _ =>
      by_cases early : clock < timeout.toNanos
      · simp [Moment.horizon, Moment.start, early]
      · simp only [Moment.horizon, Moment.start, early, decide_false]
        simp only [Bool.toNat_true, Bool.toNat_false]
        omega
    · exact Nat.le_add_left _ _
  · exact horizon_le_awaitInOrder timeout 0 flights

end Flight

namespace World

variable {σ : Type} {backend : Backend σ} {w : World σ} {q other : Query} {m : Moment}
  {f : Flight} {flights : List Flight}

theorem cached?_store_eq (on : w.cache.isSome) (a : Answer) :
    (w.store q a).cached? other = if q = other then some a else w.cached? other := by
  obtain ⟨answers, cache⟩ := Option.isSome_iff_exists.1 on
  simp [store, cached?, cache]

theorem cached?_store_of_ne (apart : q ≠ other) (a : Answer) :
    (w.store q a).cached? other = w.cached? other := by
  cases cache : w.cache <;> simp [store, cached?, cache, apart]

theorem keep_eq (m : Moment) (w : World σ) (f : Flight) :
    keep m w f = (f.course.answerAt? m).elim w (w.store f.query) := by
  unfold keep Course.answerAt? Flight.course Flight.doneBy
  cases f.due.any m.includes with
  | false => rfl
  | true => cases f.outcome <;> rfl

@[simp] theorem executions_keep : (keep m w f).executions = w.executions := by
  rw [keep_eq]
  cases f.course.answerAt? m <;> rfl

@[simp] theorem isSome_cache_keep : (keep m w f).cache.isSome = w.cache.isSome := by
  rw [keep_eq]
  cases f.course.answerAt? m <;> simp [store]

theorem cached?_keep_self (on : w.cache.isSome) :
    (keep m w f).cached? f.query = (f.course.answerAt? m).or (w.cached? f.query) := by
  rw [keep_eq]
  cases f.course.answerAt? m with
  | none => rfl
  | some a => simp [cached?_store_eq on]

theorem cached?_keep_of_ne (apart : f.query ≠ other) :
    (keep m w f).cached? other = w.cached? other := by
  rw [keep_eq]
  cases f.course.answerAt? m with
  | none => rfl
  | some a => exact cached?_store_of_ne apart a

@[simp] theorem executions_keepAll : (w.keepAll m flights).executions = w.executions := by
  induction flights generalizing w with
  | nil => rfl
  | cons f rest ih => exact ih.trans executions_keep

@[simp] theorem isSome_cache_keepAll :
    (w.keepAll m flights).cache.isSome = w.cache.isSome := by
  induction flights generalizing w with
  | nil => rfl
  | cons f rest ih => exact ih.trans isSome_cache_keep

theorem cached?_keepAll_of_not_mem (apart : q ∉ flights.map (·.query)) :
    (w.keepAll m flights).cached? q = w.cached? q := by
  induction flights generalizing w with
  | nil => rfl
  | cons f rest ih =>
    rw [List.map_cons, List.mem_cons, not_or] at apart
    exact (ih apart.2).trans (cached?_keep_of_ne (Ne.symm apart.1))

theorem cached?_keepAll_of_mem (on : w.cache.isSome) (distinct : (flights.map (·.query)).Nodup)
    (member : f ∈ flights) :
    (w.keepAll m flights).cached? f.query =
      (f.course.answerAt? m).or (w.cached? f.query) := by
  induction flights generalizing w with
  | nil => simp at member
  | cons g rest ih =>
    rw [List.map_cons, List.nodup_cons] at distinct
    have onNext : (keep m w g).cache.isSome := by simpa using on
    change ((keep m w g).keepAll m rest).cached? f.query = _
    rcases List.mem_cons.1 member with rfl | later
    · rw [cached?_keepAll_of_not_mem distinct.1, cached?_keep_self on]
    · have apart : g.query ≠ f.query :=
        fun same => distinct.1 (same ▸ List.mem_map_of_mem later)
      rw [ih onNext distinct.2 later, cached?_keep_of_ne apart]

/-- The cache holds of each of these queries what it has answered so far. -/
def Settled (m : Moment) (flights : List Flight) (w : World σ) : Prop :=
  ∀ f ∈ flights, w.cached? f.query = f.course.answerAt? m

theorem Settled.keepAll {later : Moment} (settled : w.Settled m flights) (on : w.cache.isSome)
    (distinct : (flights.map (·.query)).Nodup) (after : m.horizon ≤ later.horizon) :
    (w.keepAll later flights).Settled later flights := by
  intro f member
  rw [cached?_keepAll_of_mem on distinct member, settled f member, f.course.answerAt?_or after]

def missed (w : World σ) (flights : List Flight) : List Execution :=
  (flights.filter fun f => (w.cached? f.query).isNone).map Flight.execution

theorem mem_missed {e : Execution} :
    e ∈ w.missed flights ↔ ∃ f ∈ flights, w.cached? f.query = none ∧ f.execution = e := by
  simp [missed, and_assoc]

structure Launched (w : World σ) (queries : List Query) (flights : List Flight)
    (after : World σ) : Prop where
  cache : after.cache.isSome = w.cache.isSome
  asked : flights.map (·.query) = queries
  executions : after.executions = w.executions ++ w.missed flights
  known : ∀ f ∈ flights, ∀ a, w.cached? f.query = some a → f.course = ⟨some 0, .ok a⟩
  settled : w.cache.isSome → after.Settled .start flights
  others : ∀ q ∉ queries, after.cached? q = w.cached? q

def sent (backend : Backend σ) (w : World σ) (q : Query) : World σ :=
  { w with
    backend := (backend.execute w.backend q).2
    executions := w.executions ++ [⟨q, (backend.execute w.backend q).1⟩] }

@[simp] theorem cached?_sent : (w.sent backend q).cached? other = w.cached? other := rfl

theorem start_of_cached {a : Answer} (known : w.cached? q = some a) :
    w.start backend q = (⟨q, some 0, .ok a⟩, w) := by
  rw [start, known]

theorem start_of_missing (unknown : w.cached? q = none) :
    w.start backend q = ((backend.execute w.backend q).1.flight q,
      keep .start (w.sent backend q) ((backend.execute w.backend q).1.flight q)) := by
  rw [start, unknown]
  rfl

theorem cached?_start_of_ne (apart : q ≠ other) :
    (w.start backend q).2.cached? other = w.cached? other := by
  cases known : w.cached? q with
  | some a => rw [start_of_cached known]
  | none =>
    rw [start_of_missing known]
    exact cached?_keep_of_ne apart

theorem launched_start (backend : Backend σ) (w : World σ) (q : Query) :
    w.Launched [q] [(w.start backend q).1] (w.start backend q).2 := by
  have others : ∀ other ∉ [q], (w.start backend q).2.cached? other = w.cached? other :=
    fun other apart => cached?_start_of_ne fun same => apart (by simp [same])
  cases known : w.cached? q with
  | some a =>
    rw [start_of_cached known] at others ⊢
    refine { cache := rfl, asked := rfl, executions := by simp [missed, known], known := ?_,
             settled := fun _ => ?_, others }
    · intro f member b found
      obtain rfl := List.mem_singleton.1 member
      obtain rfl := Option.some.inj (known.symm.trans found)
      rfl
    · intro f member
      obtain rfl := List.mem_singleton.1 member
      exact known.trans (Course.answerAt?_known a (Nat.le_refl _)).symm
  | none =>
    rw [start_of_missing known] at others ⊢
    generalize same : (backend.execute w.backend q).1.flight q = flight at others ⊢
    have asked : flight.query = q := same ▸ rfl
    have unknown : w.cached? flight.query = none := asked ▸ known
    refine { cache := isSome_cache_keep, asked := by simp [asked], executions := ?_, known := ?_,
             settled := fun on => ?_, others }
    · rw [executions_keep, sent, missed, ← same]
      simp [Course.flight, Flight.execution, Flight.course, known]
    · intro f member b found
      obtain rfl := List.mem_singleton.1 member
      simp [unknown] at found
    · intro f member
      obtain rfl := List.mem_singleton.1 member
      have kept : (keep .start (w.sent backend q) f).cached? f.query = f.course.answerAt? .start := by
        rw [cached?_keep_self (by exact on), cached?_sent, unknown, Option.or_none]
      exact kept

theorem Launched.query_mem {queries : List Query} {after : World σ}
    (launched : w.Launched queries flights after) (member : f ∈ flights) : f.query ∈ queries :=
  launched.asked ▸ List.mem_map_of_mem member

theorem Launched.append {first second : List Query} {others : List Flight} {middle after : World σ}
    (launched : w.Launched first flights middle) (next : middle.Launched second others after)
    (apart : ∀ q ∈ first, q ∉ second) : w.Launched (first ++ second) (flights ++ others) after := by
  have unmoved : ∀ f ∈ others, middle.cached? f.query = w.cached? f.query := fun f member =>
    launched.others f.query fun inFirst => apart _ inFirst (next.query_mem member)
  refine { cache := next.cache.trans launched.cache, asked := ?_, executions := ?_, known := ?_,
           settled := fun on => ?_, others := ?_ }
  · rw [List.map_append, launched.asked, next.asked]
  · have same : middle.missed others = w.missed others :=
      congrArg (·.map Flight.execution) (List.filter_congr fun f member => by rw [unmoved f member])
    rw [next.executions, launched.executions, same, missed, missed, missed, List.filter_append,
      List.map_append, List.append_assoc]
  · intro f member a found
    rcases List.mem_append.1 member with inFlights | inOthers
    · exact launched.known f inFlights a found
    · exact next.known f inOthers a ((unmoved f inOthers).trans found)
  · intro f member
    rcases List.mem_append.1 member with inFlights | inOthers
    · rw [next.others f.query (apart _ (launched.query_mem inFlights))]
      exact launched.settled on f inFlights
    · exact next.settled (launched.cache.trans on) f inOthers
  · intro q outside
    rw [List.mem_append, not_or] at outside
    rw [next.others q outside.2, launched.others q outside.1]

theorem launched_startAll (backend : Backend σ) (w : World σ) {queries : List Query}
    (distinct : queries.Nodup) :
    w.Launched queries (w.startAll backend queries).1 (w.startAll backend queries).2 := by
  induction queries generalizing w with
  | nil =>
    exact ⟨rfl, rfl, by simp [startAll, missed], by simp [startAll], by simp [startAll, Settled],
      fun _ _ => rfl⟩
  | cons q rest ih =>
    rw [List.nodup_cons] at distinct
    exact (launched_start backend w q).append (ih _ distinct.2) (by simpa using distinct.1)

/-- What a step adds to the log and to the cache, when each query is waited for until a moment of
its own: whatever an execution has answered by then is kept. -/
structure Grew (w after : World σ) (new : List Execution) (held : Query → Moment) : Prop where
  on : after.cache.isSome
  executions : after.executions = w.executions ++ new
  uncached : ∀ e ∈ new, w.cached? e.query = none
  once : (new.map (·.query)).Nodup
  kept : ∀ e ∈ new, after.cached? e.query = e.course.answerAt? (held e.query)
  others : ∀ q ∉ new.map (·.query), after.cached? q = w.cached? q

theorem Grew.refl (on : w.cache.isSome) (held : Query → Moment) : w.Grew w [] held :=
  ⟨on, by simp, by simp, by simp, by simp, fun _ _ => rfl⟩

theorem Grew.congr {after : World σ} {new : List Execution} {held ends : Query → Moment}
    (grew : w.Grew after new held) (same : ∀ e ∈ new, held e.query = ends e.query) :
    w.Grew after new ends :=
  { grew with kept := fun e member => same e member ▸ grew.kept e member }

theorem Launched.grew {queries : List Query} {middle after : World σ} {held : Query → Moment}
    (launched : w.Launched queries flights middle) (distinct : queries.Nodup)
    (onward : ∀ q, Moment.start.horizon ≤ (held q).horizon)
    (on : after.cache.isSome) (executions : after.executions = middle.executions)
    (kept : ∀ f ∈ flights, after.cached? f.query = f.course.answerAt? (held f.query))
    (others : ∀ q ∉ queries, after.cached? q = w.cached? q) :
    w.Grew after (w.missed flights) held := by
  refine { on, executions := executions.trans launched.executions, uncached := ?_, once := ?_,
           kept := ?_, others := ?_ }
  · intro e member
    obtain ⟨f, -, unknown, rfl⟩ := mem_missed.1 member
    exact unknown
  · have queries : (w.missed flights).map (·.query) =
        (flights.filter fun f => (w.cached? f.query).isNone).map (·.query) := by
      simp [missed, Function.comp_def]
    rw [queries]
    exact (launched.asked ▸ distinct).sublist (List.filter_sublist.map _)
  · intro e member
    obtain ⟨f, inFlights, -, rfl⟩ := mem_missed.1 member
    exact kept f inFlights
  · intro q outside
    by_cases asked : q ∈ queries
    · rw [← launched.asked] at asked
      obtain ⟨f, inFlights, rfl⟩ := List.mem_map.1 asked
      cases known : w.cached? f.query with
      | none =>
        exact absurd (List.mem_map_of_mem (mem_missed.2 ⟨f, inFlights, known, rfl⟩)) outside
      | some a =>
        rw [kept f inFlights, launched.known f inFlights a known, Course.answerAt?_known a (onward _)]
    · exact others q asked

def executedIn (backend : Backend σ) (timeout : Duration) (w : World σ) (queries : List Query) :
    List Execution :=
  if timeout.toNanos = 0 then [] else w.missed (w.startAll backend queries).1

theorem executions_run (backend : Backend σ) (w : World σ) {queries : List Query}
    (distinct : queries.Nodup) (timeout : Duration)
    (await : List Flight → Moment × Checked (List (Query × Answer))) :
    (w.run backend timeout await queries).2.executions =
      w.executions ++ w.executedIn backend timeout queries := by
  unfold executedIn
  cases queries with
  | nil => simp [run, startAll, missed]
  | cons q rest =>
    by_cases zero : timeout.toNanos = 0
    · simp [run, zero]
    · simp only [run, zero, if_false, executions_keepAll]
      exact (launched_startAll backend w distinct).executions

theorem isSome_cache_run (backend : Backend σ) (w : World σ) {queries : List Query}
    (distinct : queries.Nodup) (timeout : Duration)
    (await : List Flight → Moment × Checked (List (Query × Answer))) :
    (w.run backend timeout await queries).2.cache.isSome = w.cache.isSome := by
  cases queries with
  | nil => rfl
  | cons q rest =>
    by_cases zero : timeout.toNanos = 0
    · simp [run, zero]
    · simp only [run, zero, if_false, isSome_cache_keepAll]
      exact (launched_startAll backend w distinct).cache

theorem grew_run (backend : Backend σ) (on : w.cache.isSome) {queries : List Query}
    (distinct : queries.Nodup) {timeout : Duration}
    {await : List Flight → Moment × Checked (List (Query × Answer))}
    (onward : Flight.Onward timeout await) :
    w.Grew (w.run backend timeout await queries).2 (w.executedIn backend timeout queries)
      fun _ => (await (w.startAll backend queries).1).1 := by
  unfold executedIn
  cases queries with
  | nil =>
    have nothing : w.missed (w.startAll backend []).1 = [] := rfl
    rw [nothing, ite_self]
    exact Grew.refl on _
  | cons q rest =>
    by_cases zero : timeout.toNanos = 0
    · simp only [run, zero, if_true]
      exact Grew.refl on _
    · simp only [run, zero, if_false]
      have launched := launched_startAll backend w distinct
      have different : ((w.startAll backend (q :: rest)).1.map (·.query)).Nodup := by
        rw [launched.asked]
        exact distinct
      have stillOn : (w.startAll backend (q :: rest)).2.cache.isSome := launched.cache.trans on
      have after := onward zero (w.startAll backend (q :: rest)).1
      refine launched.grew distinct (fun _ => after) (by simpa using stillOn) executions_keepAll ?_ ?_
      · exact (launched.settled on).keepAll stillOn different after
      · intro other outside
        have apart : other ∉ (w.startAll backend (q :: rest)).1.map (·.query) := by
          rw [launched.asked]
          exact outside
        rw [cached?_keepAll_of_not_mem apart, launched.others other outside]

end World

end PeriodCompare
