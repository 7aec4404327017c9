import PeriodCompare.Proofs.Handles
import PeriodCompare.Proofs.InTurn

set_option autoImplicit false

namespace PeriodCompare

def Action.dropped? : Action → Option Nat
  | .wait _ _ => none
  | .sleep _ => none
  | .drop i => some i

def dropped (actions : List Action) : List Nat :=
  actions.filterMap Action.dropped?

def droppedEarly : List Action → List Nat
  | [] => []
  | a :: rest => if a.takesTime then [] else a.dropped?.toList ++ droppedEarly rest

theorem dropped_cons (a : Action) (rest : List Action) :
    dropped (a :: rest) = a.dropped?.toList ++ dropped rest := by
  unfold dropped
  rw [List.filterMap_cons]
  cases a.dropped? <;> rfl

theorem droppedEarly_sublist (actions : List Action) :
    (droppedEarly actions).Sublist (dropped actions) := by
  induction actions with
  | nil => exact List.Sublist.refl _
  | cons a rest ih =>
    rw [droppedEarly, dropped_cons]
    split
    · exact List.nil_sublist _
    · exact (List.Sublist.refl _).append ih

theorem droppedEarly_append_of_timed {before : List Action} (timed : before.any (·.takesTime))
    (rest : List Action) : droppedEarly (before ++ rest) = droppedEarly before := by
  induction before with
  | nil => simp at timed
  | cons a later ih =>
    rw [List.cons_append, droppedEarly, droppedEarly]
    split
    · rfl
    · next quiet =>
      rw [ih (by simpa [quiet] using timed)]

theorem droppedEarly_append_of_quiet {before : List Action}
    (quiet : ∀ a ∈ before, a.takesTime = false) (rest : List Action) :
    droppedEarly (before ++ rest) = dropped before ++ droppedEarly rest := by
  induction before with
  | nil => rfl
  | cons a later ih =>
    rw [List.forall_mem_cons] at quiet
    rw [List.cons_append, droppedEarly, dropped_cons, ih quiet.2, quiet.1, List.append_assoc]
    rfl

namespace Flight

variable {f : Flight} {timeout : Duration} {m : Moment}

theorem lt_due_of_late {clock due : Nat} (late : ¬ f.InTime timeout clock)
    (untied : f.due ≠ some (clock + timeout.toNanos)) (completes : f.due = some due) :
    clock + timeout.toNanos < due := by
  have outside : ¬ (due ≤ clock ∨ due < clock + timeout.toNanos) :=
    fun bound => late ⟨due, completes, bound⟩
  have apart : due ≠ clock + timeout.toNanos := fun same => untied (same ▸ completes)
  omega

theorem wait_of_untied (inTime : f.InTime timeout m.clock)
    (untied : f.due ≠ some (m.clock + timeout.toNanos)) :
    (f.wait timeout m).2 = f.outcome ∧
      (f.wait timeout m).1.clock = max m.clock (f.due.getD 0) := by
  obtain ⟨due, completes, bound⟩ := inTime
  have apart : due ≠ m.clock + timeout.toNanos := fun same => untied (same ▸ completes)
  rw [completes, Option.getD_some]
  by_cases early : m.includes due
  · rw [wait_of_done (doneBy_iff.2 ⟨due, completes, early⟩), max_eq_left (Moment.le_clock early)]
    exact ⟨rfl, rfl⟩
  · have running : ¬ f.doneBy m := by
      rw [doneBy_iff, completes]
      rintro ⟨_, ⟨⟩, included⟩
      exact early included
    -- What is due at a clock that is not settled ends any wait of some length.
    rw [Moment.includes_iff, Moment.horizon] at early
    rw [wait_of_running running completes (by omega), max_eq_right (by omega)]
    exact ⟨rfl, rfl⟩

theorem not_doneBy_wait (late : ¬ f.InTime timeout m.clock) :
    ¬ f.doneBy (f.wait timeout m).1 := by
  rw [wait_of_late late]
  dsimp only
  split
  · exact not_doneBy_of_late late
  · rw [doneBy_iff]
    rintro ⟨due, completes, early⟩
    exact late ⟨due, completes, .inr (Moment.includes_iff.1 early)⟩

end Flight

def kept (queries : List Query) (gone : List Nat) : List Query :=
  queries.zipIdx.filterMap fun (q, i) => if i ∈ gone then none else some q

namespace Batch

variable {σ : Type} {backend : Backend σ} {b : Batch σ} {w : World σ} {queries : List Query}
  {gone : List Nat} {actions before rest : List Action} {i : Nat} {q : Query} {timeout : Duration}

def held (w : World σ) (queries : List Query) (gone : List Nat) : Batch σ :=
  ⟨w, .start, queries.zipIdx.map fun (q, i) => if i ∈ gone then .dropped else .waiting q⟩

theorem getElem?_held (w : World σ) (queries : List Query) (gone : List Nat) (i : Nat) :
    (held w queries gone).handles[i]? =
      queries[i]?.map fun q => if i ∈ gone then .dropped else .waiting q := by
  cases found : queries[i]? <;> simp [held, found]

theorem submit_eq_held (w : World σ) (queries : List Query) :
    submit w queries = held w queries [] := by
  have same : (submit w queries).handles = (held w queries []).handles := by
    apply List.ext_getElem?
    simp [getElem?_held, submit]
  exact congrArg (Batch.mk w .start) same

theorem drop_held (w : World σ) (queries : List Query) (gone : List Nat) (i : Nat) :
    (held w queries gone).drop i = held w queries (gone ++ [i]) := by
  have same : (held w queries gone).handles.set i .dropped =
      (held w queries (gone ++ [i])).handles := by
    apply List.ext_getElem?
    intro j
    rw [List.getElem?_set', getElem?_held, getElem?_held]
    by_cases here : i = j
    · subst here
      cases queries[i]? <;> simp
    · simp [here, Ne.symm here]
  exact congrArg (Batch.mk w .start) same

theorem flights_held : (held w queries gone).flights = [] := by
  rw [flights_eq, List.filterMap_eq_nil_iff]
  intro handle member
  obtain ⟨⟨q, i⟩, -, rfl⟩ := List.mem_map.1 member
  dsimp only
  split <;> rfl

theorem waiting_held : (held w queries gone).waiting = kept queries gone := by
  simp only [waiting, held, kept, List.filterMap_map]
  refine List.filterMap_congr fun pair _ => ?_
  dsimp only [Function.comp_apply]
  split <;> rfl

theorem act_held (backend : Backend σ) {a : Action} (quiet : a.takesTime = false) :
    (held w queries gone).act backend a = held w queries (gone ++ a.dropped?.toList) := by
  cases a with
  | drop i => exact drop_held w queries gone i
  | sleep nanos =>
    have short : nanos = 0 := by simpa [Action.takesTime] using quiet
    simp [act, sleep, short, Action.dropped?]
  | wait i timeout =>
    have short : timeout.toNanos = 0 := by simpa [Action.takesTime] using quiet
    simp only [act, wait, short, if_true, getElem?_held, Action.dropped?, Option.toList_none,
      List.append_nil]
    cases queries[i]? with
    | none => rfl
    | some q => by_cases dropped : i ∈ gone <;> simp [dropped]

theorem actAll_held (backend : Backend σ) (quiet : ∀ a ∈ actions, a.takesTime = false) :
    (held w queries gone).actAll backend actions = held w queries (gone ++ dropped actions) := by
  induction actions generalizing gone with
  | nil => simp [actAll, dropped]
  | cons a rest ih =>
    rw [List.forall_mem_cons] at quiet
    rw [dropped_cons, ← List.append_assoc, ← ih quiet.2, ← act_held backend quiet.1]
    rfl

theorem getElem?_startHandles (backend : Backend σ) (w : World σ) {handles : List Handle}
    (resting : handles.filterMap Handle.flight? = []) (i : Nat) :
    (startHandles backend w handles).1[i]? = handles[i]?.map fun handle =>
      (startHandle backend
        (w.startAll backend ((handles.take i).filterMap Handle.waiting?)).2 handle).1 := by
  induction handles generalizing w i with
  | nil => rfl
  | cons handle rest ih =>
    cases i with
    | zero => rfl
    | succ i =>
      cases handle with
      | waiting q => exact ih _ resting i
      | flying f => exact absurd resting (List.cons_ne_nil f _)
      | dropped => exact ih _ resting i

def flight? (backend : Backend σ) (w : World σ) (queries : List Query) (gone : List Nat)
    (i : Nat) : Option Flight :=
  if i ∈ gone then none
  else queries[i]?.map fun q =>
    ((w.startAll backend (kept (queries.take i) gone)).2.start backend q).1

theorem query_of_flight? {f : Flight} (flying : flight? backend w queries gone i = some f) :
    queries[i]? = some f.query := by
  unfold flight? at flying
  split at flying
  · cases flying
  · obtain ⟨q, found, rfl⟩ := Option.map_eq_some_iff.1 flying
    rw [found, World.start_query]

theorem take_handles_held : (held w queries gone).handles.take i =
    (held w (queries.take i) gone).handles := by
  apply List.ext_getElem?
  intro j
  rw [getElem?_held, List.getElem?_take, List.getElem?_take]
  split
  · exact getElem?_held w queries gone j
  · rfl

theorem getElem?_start_held (backend : Backend σ) (w : World σ) (inside : queries[i]? = some q)
    (present : i ∉ gone) :
    ∃ f, flight? backend w queries gone i = some f ∧
      ((held w queries gone).start backend).handles[i]? = some (.flying f) := by
  have resting : (held w queries gone).handles.filterMap Handle.flight? = [] := by
    rw [← flights_eq, flights_held]
  have before : ((held w queries gone).handles.take i).filterMap Handle.waiting? =
      kept (queries.take i) gone := by
    rw [take_handles_held]
    exact waiting_held
  refine ⟨_, by rw [flight?, if_neg present, inside, Option.map_some], ?_⟩
  have started := getElem?_startHandles backend w resting i
  rw [getElem?_held, inside, before, Option.map_some, if_neg present] at started
  exact started

theorem handles_wait (backend : Backend σ) (b : Batch σ) (i : Nat) (timeout : Duration) :
    (b.wait backend i timeout).2.handles =
      (if timeout.toNanos = 0 then b else b.start backend).handles := by
  unfold wait
  dsimp only
  split <;> rfl

theorem handles_act_of_started (started : b.waiting = []) {a : Action} (other : i ∉ a.dropped?) :
    (b.act backend a).handles[i]? = b.handles[i]? := by
  cases a with
  | drop j =>
    have apart : j ≠ i := fun same => other (same ▸ rfl)
    exact List.getElem?_set_ne apart
  | sleep nanos =>
    simp only [act, sleep, start_of_started started]
    split <;> rfl
  | wait j timeout =>
    simp only [act, handles_wait, start_of_started started, ite_self]

theorem waiting_act_of_started (started : b.waiting = []) (a : Action) :
    (b.act backend a).waiting = [] := by
  rcases act_of_started backend started a with same | ⟨i, same⟩ | ⟨m, same⟩
  · rw [same, started]
  · exact List.sublist_nil.1 (started ▸ same ▸ b.waiting_drop_sublist i)
  · exact same ▸ started

theorem executions_act_of_started (started : b.waiting = []) (a : Action) :
    (b.act backend a).world.executions = b.world.executions := by
  rcases act_of_started backend started a with same | ⟨i, same⟩ | ⟨m, same⟩
  · rw [same]
  · rw [same]
    rfl
  · rw [same]
    exact World.executions_keepAll

theorem actAll_of_started (backend : Backend σ) (started : b.waiting = []) (actions : List Action) :
    (b.actAll backend actions).waiting = [] ∧
      (b.actAll backend actions).world.executions = b.world.executions ∧
      ∀ i ∉ dropped actions, (b.actAll backend actions).handles[i]? = b.handles[i]? := by
  induction actions generalizing b with
  | nil => exact ⟨started, rfl, fun _ _ => rfl⟩
  | cons a rest ih =>
    obtain ⟨still, executions, handles⟩ := ih (waiting_act_of_started started a)
    refine ⟨still, executions.trans (executions_act_of_started started a), fun i other => ?_⟩
    rw [dropped_cons, List.mem_append, not_or, Option.mem_toList] at other
    exact (handles i other.2).trans (handles_act_of_started started other.1)

theorem actAll_held_of_timed (backend : Backend σ) (w : World σ) (queries : List Query)
    (gone : List Nat) (timed : actions.any (·.takesTime)) :
    ∃ past, past <:+ actions ∧ (held w queries gone).actAll backend actions =
      ((held w queries (gone ++ droppedEarly actions)).start backend).actAll backend past := by
  induction actions generalizing gone with
  | nil => simp at timed
  | cons a rest ih =>
    cases takes : a.takesTime with
    | true =>
      refine ⟨a :: rest, List.suffix_refl _, ?_⟩
      simp only [actAll, List.foldl_cons, droppedEarly, takes, if_true, List.append_nil,
        act_start takes]
    | false =>
      obtain ⟨past, part, same⟩ :=
        ih (gone ++ a.dropped?.toList) (by simpa [takes] using timed)
      refine ⟨past, part.trans (List.suffix_cons a rest), ?_⟩
      rw [List.append_assoc, ← act_held backend takes] at same
      simpa [actAll, droppedEarly, takes] using same

/-- How a wait for a query ends that begins at `clock`. -/
structure Waited (q : Query) (flight : Option Flight) (i : Nat) (timeout : Duration) (clock : Nat)
    (result : Checked Answer × Batch σ) : Prop where
  answered : ∀ f ∈ flight, f.InTime timeout clock →
    result.1 = f.outcome ∧ result.2.clock = max clock (f.due.getD 0)
  late : (∀ f ∈ flight, ¬ f.InTime timeout clock) →
    result.1 = .error (.backendTimeout q.text timeout) ∧
      result.2.clock = clock + timeout.toNanos ∧ result.2.finished[i]? = some (some false)

theorem waited_of_flying {f : Flight} (started : b.waiting = [])
    (flying : b.handles[i]? = some (.flying f))
    (untied : f.due ≠ some (b.clock + timeout.toNanos)) :
    Waited f.query (some f) i timeout b.clock (b.wait backend i timeout) := by
  have waited : b.wait backend i timeout =
      ((f.wait timeout b.moment).2, b.advance (f.wait timeout b.moment).1) := by
    simp only [wait, start_of_started started, ite_self, flying]
  rw [waited]
  constructor
  · rintro _ ⟨⟩ inTime
    exact Flight.wait_of_untied inTime untied
  · intro late
    have late : ¬ f.InTime timeout b.moment.clock := late f rfl
    have unfinished := Flight.not_doneBy_wait late
    refine ⟨by rw [Flight.wait_of_late late], ?_, ?_⟩
    · rw [Flight.wait_of_late late]
      by_cases zero : timeout.toNanos = 0 <;> simp [advance, clock, zero]
    · simp [finished, advance, flying, Handle.isFinished?, unfinished]

theorem waited_of_resting {f? : Option Flight} (inside : queries[i]? = some q) (present : i ∉ gone)
    (zero : timeout.toNanos = 0) (untied : ∀ f ∈ f?, f.due ≠ some 0) :
    Waited q f? i timeout 0 ((held w queries gone).wait backend i timeout) := by
  have waiting : (held w queries gone).handles[i]? = some (.waiting q) := by
    rw [getElem?_held, inside, Option.map_some, if_neg present]
  have waited : (held w queries gone).wait backend i timeout =
      (.error (.backendTimeout q.text timeout), held w queries gone) := by
    simp only [wait, zero, if_true, waiting]
  rw [waited]
  constructor
  · rintro f flying ⟨due, completes, bound⟩
    have atOnce : due = 0 := by omega
    exact absurd (atOnce ▸ completes) (untied f flying)
  · intro late
    refine ⟨rfl, by rw [zero]; rfl, ?_⟩
    simp [finished, waiting, Handle.isFinished?]

theorem flying_of_timed (backend : Backend σ) (w : World σ) (timed : before.any (·.takesTime))
    (inside : queries[i]? = some q) (present : i ∉ dropped before) :
    ∃ f, flight? backend w queries (droppedEarly before) i = some f ∧
      ((submit w queries).actAll backend before).waiting = [] ∧
      ((submit w queries).actAll backend before).handles[i]? = some (.flying f) := by
  obtain ⟨past, part, same⟩ := actAll_held_of_timed backend w queries [] timed
  rw [← submit_eq_held, List.nil_append] at same
  have stays : i ∉ droppedEarly before :=
    fun early => present ((droppedEarly_sublist before).subset early)
  have afterwards : i ∉ dropped past :=
    fun later => present ((part.sublist.filterMap _).subset later)
  obtain ⟨f, flight, started⟩ := getElem?_start_held backend w inside stays
  obtain ⟨waiting, -, handles⟩ := actAll_of_started backend
    (waiting_start (b := held w queries (droppedEarly before))) past
  rw [same]
  exact ⟨f, flight, waiting, (handles i afterwards).trans started⟩

theorem waited_of_split (early : droppedEarly (before ++ .wait i timeout :: rest) = gone)
    (inside : queries[i]? = some q) (present : i ∉ dropped before)
    (untied : ∀ f ∈ flight? backend w queries gone i,
      f.due ≠ some (((submit w queries).actAll backend before).clock + timeout.toNanos)) :
    Waited q (flight? backend w queries gone i) i timeout
      ((submit w queries).actAll backend before).clock
      (((submit w queries).actAll backend before).wait backend i timeout) := by
  have asked {f : Flight} (flight : flight? backend w queries gone i = some f) : f.query = q :=
    Option.some.inj ((query_of_flight? flight).symm.trans inside)
  cases timed : before.any (·.takesTime) with
  | true =>
    obtain ⟨f, flight, started, flying⟩ := flying_of_timed backend w timed inside present
    rw [droppedEarly_append_of_timed timed] at early
    rw [early] at flight
    rw [flight] at untied ⊢
    rw [← asked flight]
    exact waited_of_flying started flying (untied f rfl)
  | false =>
    have quiet : ∀ a ∈ before, a.takesTime = false := by simpa using timed
    rw [droppedEarly_append_of_quiet quiet] at early
    have resting : (submit w queries).actAll backend before = held w queries (dropped before) := by
      rw [submit_eq_held, actAll_held backend quiet, List.nil_append]
    rw [resting] at untied ⊢
    by_cases zero : timeout.toNanos = 0
    · rw [zero] at untied
      exact waited_of_resting inside present zero untied
    · have noMore : droppedEarly (.wait i timeout :: rest) = [] := by
        simp [droppedEarly, Action.takesTime, zero]
      rw [noMore, List.append_nil] at early
      subst early
      obtain ⟨f, flight, flying⟩ := getElem?_start_held backend w inside present
      rw [flight] at untied ⊢
      rw [← asked flight, ← wait_start zero]
      exact waited_of_flying waiting_start flying (untied f rfl)

theorem Waited.unique {f? : Option Flight} {clock : Nat} {result other : Checked Answer × Batch σ}
    (waited : Waited q f? i timeout clock result) (again : Waited q f? i timeout clock other) :
    result.1 = other.1 ∧ result.2.clock = other.2.clock := by
  by_cases inTime : ∃ f ∈ f?, f.InTime timeout clock
  · obtain ⟨f, flying, inTime⟩ := inTime
    obtain ⟨outcome, done⟩ := waited.answered f flying inTime
    obtain ⟨same, also⟩ := again.answered f flying inTime
    exact ⟨outcome.trans same.symm, done.trans also.symm⟩
  · have late : ∀ f ∈ f?, ¬ f.InTime timeout clock := fun f flying h => inTime ⟨f, flying, h⟩
    obtain ⟨outcome, done, -⟩ := waited.late late
    obtain ⟨same, also, -⟩ := again.late late
    exact ⟨outcome.trans same.symm, done.trans also.symm⟩

theorem Waited.add {f? : Option Flight} {clock : Nat} {more both : Duration}
    {result single : Checked Answer × Batch σ}
    (sum : both.toNanos = timeout.toNanos + more.toNanos)
    (late : ∀ f ∈ f?, ¬ f.InTime timeout clock)
    (untied : ∀ f ∈ f?, f.due ≠ some (clock + timeout.toNanos))
    (again : Waited q f? i more (clock + timeout.toNanos) result)
    (waited : Waited q f? i both clock single) :
    result.2.clock = single.2.clock ∧
      (result.1 = single.1 ∨ result.1 = .error (.backendTimeout q.text more) ∧
        single.1 = .error (.backendTimeout q.text both)) := by
  by_cases inTime : ∃ f ∈ f?, f.InTime more (clock + timeout.toNanos)
  · obtain ⟨f, flying, due, completes, early⟩ := inTime
    have after := Flight.lt_due_of_late (late f flying) (untied f flying) completes
    obtain ⟨outcome, done⟩ := again.answered f flying ⟨due, completes, early⟩
    obtain ⟨same, also⟩ := waited.answered f flying ⟨due, completes, by omega⟩
    refine ⟨?_, .inl (outcome.trans same.symm)⟩
    rw [done, also, completes, Option.getD_some]
    omega
  · have stillLate : ∀ f ∈ f?, ¬ f.InTime more (clock + timeout.toNanos) :=
      fun f flying h => inTime ⟨f, flying, h⟩
    have lateForBoth : ∀ f ∈ f?, ¬ f.InTime both clock := by
      rintro f flying ⟨due, completes, early⟩
      have after := Flight.lt_due_of_late (late f flying) (untied f flying) completes
      exact stillLate f flying ⟨due, completes, by omega⟩
    obtain ⟨outcome, done, -⟩ := again.late stillLate
    obtain ⟨same, also, -⟩ := waited.late lateForBoth
    exact ⟨by rw [done, also, sum, Nat.add_assoc], .inr ⟨outcome, same⟩⟩

end Batch

namespace World

variable {σ : Type} {backend : Backend σ} {w : World σ} {q : Query} {queries : List Query}

theorem received_start (backend : Backend σ) (w : World σ) (q : Query) :
    (w.start backend q).2.received = w.received ++ if (w.cached? q).isSome then [] else [q] := by
  cases known : w.cached? q with
  | some a => simp [start_of_cached known]
  | none => simp [start_of_missing known, received, sent]

theorem received_startAll (backend : Backend σ) (w : World σ) (queries : List Query) :
    ∃ sent, sent.Sublist queries ∧
      (w.startAll backend queries).2.received = w.received ++ sent := by
  induction queries generalizing w with
  | nil => exact ⟨[], List.Sublist.refl _, by simp [startAll]⟩
  | cons q rest ih =>
    obtain ⟨later, part, received⟩ := ih (w.start backend q).2
    refine ⟨(if (w.cached? q).isSome then [] else [q]) ++ later, ?_, ?_⟩
    · split
      · exact part.cons q
      · exact part.cons_cons q
    · rw [← List.append_assoc, ← received_start]
      exact received

end World

namespace Batch

variable {σ : Type}

def starting (queries : List Query) (actions : List Action) : List Query :=
  if actions.any (·.takesTime) then kept queries (droppedEarly actions) else []

theorem executions_actAll (backend : Backend σ) (w : World σ) (queries : List Query)
    (actions : List Action) :
    ((submit w queries).actAll backend actions).world.executions =
      (w.startAll backend (starting queries actions)).2.executions := by
  rw [submit_eq_held, starting]
  split
  next timed =>
    obtain ⟨past, -, same⟩ := actAll_held_of_timed backend w queries [] timed
    rw [List.nil_append] at same
    rw [same, (actAll_of_started backend waiting_start past).2.1, world_start flights_held,
      waiting_held]
    rfl
  next untimed =>
    have quiet : ∀ a ∈ actions, a.takesTime = false := by simpa using untimed
    rw [actAll_held backend quiet]
    rfl

/-- Waits, sleeps and drops as the handles of a batch allow them: no handle is waited on again after
it has answered or has been dropped, and no query completes just when a wait for it ends. -/
structure Orderly (backend : Backend σ) (w : World σ) (queries : List Query)
    (actions : List Action) : Prop where
  present : ∀ before i timeout rest, actions = before ++ .wait i timeout :: rest →
    i < queries.length ∧ i ∉ dropped before
  unanswered : ∀ before i timeout between again rest,
    actions = before ++ .wait i timeout :: (between ++ .wait i again :: rest) →
      ∀ f ∈ flight? backend w queries (droppedEarly actions) i,
        ¬ f.InTime timeout ((submit w queries).actAll backend before).clock
  untied : ∀ before i timeout rest, actions = before ++ .wait i timeout :: rest →
    ∀ f ∈ flight? backend w queries (droppedEarly actions) i,
      f.due ≠ some (((submit w queries).actAll backend before).clock + timeout.toNanos)

theorem Orderly.waited {backend : Backend σ} {w : World σ} {queries : List Query}
    {actions before rest : List Action} {i : Nat} {timeout : Duration}
    (orderly : Orderly backend w queries actions)
    (split : actions = before ++ .wait i timeout :: rest) :
    ∃ q, queries[i]? = some q ∧
      Waited q (flight? backend w queries (droppedEarly actions) i) i timeout
        ((submit w queries).actAll backend before).clock
        (((submit w queries).actAll backend before).wait backend i timeout) := by
  obtain ⟨inside, present⟩ := orderly.present before i timeout rest split
  have untied := orderly.untied before i timeout rest split
  refine ⟨queries[i], List.getElem?_eq_getElem inside, ?_⟩
  exact waited_of_split (by rw [split]) (List.getElem?_eq_getElem inside) present untied

theorem droppedEarly_merge {before later : List Action} {i : Nat} {timeout more both : Duration}
    (sum : both.toNanos = timeout.toNanos + more.toNanos) :
    droppedEarly (before ++ .wait i both :: later) =
      droppedEarly (before ++ .wait i timeout :: .wait i more :: later) := by
  cases timed : before.any (·.takesTime) with
  | true => rw [droppedEarly_append_of_timed timed, droppedEarly_append_of_timed timed]
  | false =>
    have quiet : ∀ a ∈ before, a.takesTime = false := by simpa using timed
    rw [droppedEarly_append_of_quiet quiet, droppedEarly_append_of_quiet quiet]
    by_cases zero : timeout.toNanos = 0 <;>
      simp [droppedEarly, Action.takesTime, Action.dropped?, sum, zero]

theorem Orderly.add {backend : Backend σ} {w : World σ} {queries : List Query}
    {actions before later : List Action} {i : Nat} {q : Query} {timeout more both : Duration}
    (orderly : Orderly backend w queries actions)
    (split : actions = before ++ .wait i timeout :: .wait i more :: later)
    (sum : both.toNanos = timeout.toNanos + more.toNanos) (inside : queries[i]? = some q) :
    let after := (submit w queries).actAll backend
    let again := (after (before ++ [.wait i timeout])).wait backend i more
    let single := (after before).wait backend i both
    again.2.clock = single.2.clock ∧
      (again.1 = single.1 ∨ again.1 = .error (.backendTimeout q.text more) ∧
        single.1 = .error (.backendTimeout q.text both)) := by
  intro after again single
  have next : actions = (before ++ [.wait i timeout]) ++ .wait i more :: later := by simp [split]
  have late := orderly.unanswered before i timeout [] more later split
  have untied := orderly.untied before i timeout _ split
  obtain ⟨_, found, first⟩ := orderly.waited split
  obtain ⟨_, found', second⟩ := orderly.waited next
  cases found.symm.trans inside
  cases found'.symm.trans inside
  have clock : (after (before ++ [.wait i timeout])).clock =
      (after before).clock + timeout.toNanos := by
    rw [← (first.late late).2.1]
    simp [after, actAll, act]
  have laterUntied := orderly.untied _ i more later next
  rw [clock] at second laterUntied
  rw [Nat.add_assoc, ← sum] at laterUntied
  have early : droppedEarly (before ++ .wait i both :: later) = droppedEarly actions := by
    rw [droppedEarly_merge sum, split]
  have present := (orderly.present before i timeout _ split).2
  exact second.add sum late untied (waited_of_split early inside present laterUntied)

/-- A wait for a handle ends as its own query does, or in a timeout of its own after which it can be
waited on again, whatever is done to the others. -/
theorem wait_outcome (backend : Backend σ) (w : World σ) (queries : List Query)
    (actions : List Action) (orderly : Orderly backend w queries actions) :
    let after := (submit w queries).actAll backend
    let flight := flight? backend w queries (droppedEarly actions)
    (after []).clock = 0 ∧
    (∀ (b : Batch σ) (nanos i : Nat),
      (b.sleep backend nanos).clock = b.clock + nanos ∧ (b.drop i).clock = b.clock) ∧
    (∀ before i timeout rest, actions = before ++ .wait i timeout :: rest →
      ∃ q, queries[i]? = some q ∧
        Waited q (flight i) i timeout (after before).clock
          ((after before).wait backend i timeout) ∧
        (∀ more later, rest = .wait i more :: later →
          ∀ both : Duration, both.toNanos = timeout.toNanos + more.toNanos →
            let again := (after (before ++ [.wait i timeout])).wait backend i more
            let single := (after before).wait backend i both
            again.2.clock = single.2.clock ∧
              (again.1 = single.1 ∨ again.1 = .error (.backendTimeout q.text more) ∧
                single.1 = .error (.backendTimeout q.text both))) ∧
        ∀ others earlier later, Orderly backend w queries others →
          others = earlier ++ .wait i timeout :: later →
          flight? backend w queries (droppedEarly others) i = flight i →
          (after earlier).clock = (after before).clock →
            let other := (after earlier).wait backend i timeout
            let result := (after before).wait backend i timeout
            other.1 = result.1 ∧ other.2.clock = result.2.clock) ∧
    (after actions).world.executions =
      (w.startAll backend (starting queries actions)).2.executions ∧
    ∃ sent, sent.Sublist (starting queries actions) ∧
      (after actions).world.received = w.received ++ sent := by
  intro after flight
  have executions := executions_actAll backend w queries actions
  refine ⟨rfl, fun b nanos i => ⟨?_, rfl⟩, fun before i timeout rest split => ?_, executions, ?_⟩
  · unfold sleep
    split
    · simp [*]
    · rfl
  · obtain ⟨q, inside, waited⟩ := orderly.waited split
    refine ⟨q, inside, waited, ?_, ?_⟩
    · rintro more later rfl both sum
      exact orderly.add split sum inside
    · intro others earlier later alsoOrderly alsoSplit sameFlight sameClock
      obtain ⟨_, found, other⟩ := alsoOrderly.waited alsoSplit
      cases found.symm.trans inside
      rw [sameFlight, show _ = (after before).clock from sameClock] at other
      exact other.unique waited
  · obtain ⟨sent, part, received⟩ := w.received_startAll backend (starting queries actions)
    exact ⟨sent, part, (congrArg (List.map Execution.query) executions).trans received⟩

/-- Of five queries one is dropped before all start and one while they run; a third, which takes
1.8 s, is waited for twice, for a second each. -/
def patience : List Action :=
  [.drop 3, .wait 1 .second, .drop 4, .wait 1 .second]

theorem waits_patience {before rest : List Action} {i : Nat} {timeout : Duration}
    (split : patience = before ++ .wait i timeout :: rest) :
    i = 1 ∧ timeout = .second ∧
      (before = patience.take 1 ∨ before = patience.take 3 ∧ rest = []) := by
  rcases before with _ | ⟨_, _ | ⟨_, _ | ⟨_, _ | ⟨_, before⟩⟩⟩⟩
  · cases split
  · cases split
    exact ⟨rfl, rfl, .inl rfl⟩
  · cases split
  · cases split
    exact ⟨rfl, rfl, .inr ⟨rfl, rfl⟩⟩
  · simp [patience] at split

theorem wait_outcome_patience :
    let queries := bucketTotals [0, 1, 2, 3, 4]
    let start := submit (⟨(), none, []⟩ : World Unit) queries
    let now := start.actAll (.pure World.stumbling) (patience.take 3)
    Orderly (.pure World.stumbling) ⟨(), none, []⟩ queries patience ∧
      (now.wait (.pure World.stumbling) 1 .second).1 = .ok .empty := by
  intro queries start now
  let q : Query := (Request.orderTotals []).totalQuery [] 1 .baseline
  have flight : flight? (.pure World.stumbling) ⟨(), none, []⟩ queries
      (droppedEarly patience) 1 = some ⟨q, some 1800000000, .ok .empty⟩ := rfl
  have first : (start.actAll (.pure World.stumbling) (patience.take 1)).clock = 0 := rfl
  have second : now.clock = 1000000000 := by decide +kernel
  have orderly : Orderly (.pure World.stumbling) ⟨(), none, []⟩ queries patience := by
    constructor
    · intro before i timeout rest split
      obtain ⟨rfl, rfl, rfl | ⟨rfl, rfl⟩⟩ := waits_patience split <;> decide
    · intro before i timeout between again rest split f flying
      obtain ⟨rfl, rfl, rfl | ⟨rfl, nothing⟩⟩ := waits_patience split
      · cases flight.symm.trans flying
        rw [first]
        rintro ⟨due, ⟨⟩, bound⟩
        revert bound
        decide
      · simp at nothing
    · intro before i timeout rest split f flying
      obtain ⟨rfl, rfl, rfl | ⟨rfl, rfl⟩⟩ := waits_patience split
      all_goals
        cases flight.symm.trans flying
        decide
  obtain ⟨-, -, waits, -⟩ := wait_outcome (.pure World.stumbling) ⟨(), none, []⟩ queries patience
    orderly
  obtain ⟨_, -, waited, -⟩ := waits (patience.take 3) 1 .second [] rfl
  have inTime : Flight.InTime .second now.clock ⟨q, some 1800000000, .ok .empty⟩ :=
    ⟨_, rfl, .inr (by rw [second]; decide)⟩
  exact ⟨orderly, (waited.answered _ flight inTime).1⟩

end Batch

end PeriodCompare
