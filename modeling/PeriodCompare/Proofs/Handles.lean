import PeriodCompare.Proofs.Cache
import PeriodCompare.Session

set_option autoImplicit false

namespace PeriodCompare

namespace Handle

def query? : Handle → Option Query
  | .waiting q => some q
  | .flying f => some f.query
  | .dropped => none

def waiting? : Handle → Option Query
  | .waiting q => some q
  | .flying _ => none
  | .dropped => none

def flight? : Handle → Option Flight
  | .waiting _ => none
  | .flying f => some f
  | .dropped => none

end Handle

-- Waits and sleeps of no length let no query start.
def Action.takesTime : Action → Bool
  | .wait _ timeout => timeout.toNanos != 0
  | .sleep nanos => nanos != 0
  | .drop _ => false

theorem filterMap_set_sublist {α β : Type} {g : α → Option β} {x : α} (absent : g x = none)
    (l : List α) (i : Nat) : ((l.set i x).filterMap g).Sublist (l.filterMap g) := by
  induction l generalizing i with
  | nil => exact List.Sublist.refl _
  | cons a rest ih =>
    cases i with
    | zero =>
      rw [List.set_cons_zero, List.filterMap_cons_none absent, List.filterMap_cons]
      split
      · exact List.Sublist.refl _
      · exact List.sublist_cons_self _ _
    | succ i =>
      rw [List.set_cons_succ, List.filterMap_cons, List.filterMap_cons]
      split
      · exact ih i
      · exact (ih i).cons_cons _

namespace Batch

variable {σ : Type} {backend : Backend σ} {b : Batch σ} {w : World σ} {i : Nat}
  {timeout : Duration}

def waiting (b : Batch σ) : List Query :=
  b.handles.filterMap Handle.waiting?

theorem flights_eq (b : Batch σ) : b.flights = b.handles.filterMap Handle.flight? := by
  unfold flights
  congr 1
  funext handle
  cases handle <;> rfl

def Holds (b : Batch σ) (q : Query) : Prop :=
  some q ∈ b.handles.map Handle.query?

instance (b : Batch σ) (q : Query) : Decidable (b.Holds q) :=
  inferInstanceAs (Decidable (_ ∈ _))

def heldUntil (backend : Backend σ) (b : Batch σ) (q : Query) : List Action → Moment
  | [] => b.moment
  | action :: rest =>
    if b.Holds q then heldUntil backend (b.act backend action) q rest else b.moment

theorem heldUntil_of_not_holds {q : Query} (dropped : ¬ b.Holds q) (actions : List Action) :
    b.heldUntil backend q actions = b.moment := by
  cases actions with
  | nil => rfl
  | cons action rest => exact if_neg dropped

theorem holds_iff {q : Query} : b.Holds q ↔ q ∈ b.waiting ∨ q ∈ b.flights.map (·.query) := by
  simp only [Holds, waiting, flights_eq, List.mem_map, List.mem_filterMap]
  constructor
  · rintro ⟨handle, member, same⟩
    cases handle with
    | waiting p => exact .inl ⟨_, member, same⟩
    | flying f => exact .inr ⟨f, ⟨_, member, rfl⟩, Option.some.inj same⟩
    | dropped => simp [Handle.query?] at same
  · rintro (⟨handle, member, same⟩ | ⟨f, ⟨handle, member, same⟩, rfl⟩)
    · cases handle with
      | waiting p => exact ⟨_, member, same⟩
      | flying f => simp [Handle.waiting?] at same
      | dropped => simp [Handle.waiting?] at same
    · cases handle with
      | waiting p => simp [Handle.flight?] at same
      | flying g => exact ⟨_, member, congrArg _ (congrArg _ (Option.some.inj same))⟩
      | dropped => simp [Handle.flight?] at same

section Starting

variable {handles : List Handle}

theorem startHandles_of_started (started : handles.filterMap Handle.waiting? = []) :
    startHandles backend w handles = (handles, w) := by
  induction handles with
  | nil => rfl
  | cons handle rest ih =>
    cases handle with
    | waiting q => exact absurd started (List.cons_ne_nil q _)
    | flying f => simp [startHandles, startHandle, ih started]
    | dropped => simp [startHandles, startHandle, ih started]

theorem waiting_startHandles :
    (startHandles backend w handles).1.filterMap Handle.waiting? = [] := by
  induction handles generalizing w with
  | nil => rfl
  | cons handle rest ih => cases handle <;> exact ih

theorem startHandles_of_resting (resting : handles.filterMap Handle.flight? = []) :
    (startHandles backend w handles).1.filterMap Handle.flight? =
        (w.startAll backend (handles.filterMap Handle.waiting?)).1 ∧
      (startHandles backend w handles).2 =
        (w.startAll backend (handles.filterMap Handle.waiting?)).2 := by
  induction handles generalizing w with
  | nil => exact ⟨rfl, rfl⟩
  | cons handle rest ih =>
    cases handle with
    | waiting q =>
      have later := ih (w := (w.start backend q).2) resting
      exact ⟨congrArg ((w.start backend q).1 :: ·) later.1, later.2⟩
    | flying f => exact absurd resting (List.cons_ne_nil f _)
    | dropped => exact ih resting

theorem query?_startHandles :
    (startHandles backend w handles).1.map Handle.query? = handles.map Handle.query? := by
  induction handles generalizing w with
  | nil => rfl
  | cons handle rest ih =>
    cases handle with
    | waiting q =>
      have same : some (w.start backend q).1.query = some q := congrArg some World.start_query
      exact congrArg₂ List.cons same ih
    | flying f => exact congrArg (some f.query :: ·) ih
    | dropped => exact congrArg (none :: ·) ih

end Starting

theorem start_of_started (started : b.waiting = []) : b.start backend = b := by
  unfold start
  rw [startHandles_of_started started]

theorem waiting_start : (b.start backend).waiting = [] :=
  waiting_startHandles

theorem start_start (backend : Backend σ) (b : Batch σ) :
    (b.start backend).start backend = b.start backend :=
  start_of_started waiting_start

theorem wait_start (takes : timeout.toNanos ≠ 0) :
    (b.start backend).wait backend i timeout = b.wait backend i timeout := by
  simp only [wait, if_neg takes, start_start]

theorem act_start {a : Action} (takes : a.takesTime) :
    (b.start backend).act backend a = b.act backend a := by
  cases a with
  | drop i => cases takes
  | sleep nanos =>
    have long : nanos ≠ 0 := by simpa [Action.takesTime] using takes
    simp only [act, sleep, if_neg long, start_start]
  | wait i timeout =>
    have long : timeout.toNanos ≠ 0 := by simpa [Action.takesTime] using takes
    simp only [act, wait_start long]

theorem flights_start (resting : b.flights = []) :
    (b.start backend).flights = (b.world.startAll backend b.waiting).1 := by
  rw [flights_eq] at resting ⊢
  exact (startHandles_of_resting resting).1

theorem world_start (resting : b.flights = []) :
    (b.start backend).world = (b.world.startAll backend b.waiting).2 := by
  rw [flights_eq] at resting
  exact (startHandles_of_resting resting).2

theorem flights_drop_sublist (b : Batch σ) (i : Nat) : (b.drop i).flights.Sublist b.flights := by
  rw [flights_eq, flights_eq]
  exact filterMap_set_sublist rfl b.handles i

theorem waiting_drop_sublist (b : Batch σ) (i : Nat) : (b.drop i).waiting.Sublist b.waiting :=
  filterMap_set_sublist rfl b.handles i

theorem holds_start {q : Query} : (b.start backend).Holds q ↔ b.Holds q := by
  simp only [Holds, start, query?_startHandles]

theorem holds_of_mem_waiting {q : Query} (member : q ∈ b.waiting) : b.Holds q :=
  holds_iff.2 (.inl member)

theorem heldUntil_cons {q : Query} (holds : b.Holds q) (action : Action) (rest : List Action) :
    b.heldUntil backend q (action :: rest) =
      (b.act backend action).heldUntil backend q rest :=
  if_pos holds

theorem horizon_le_act (backend : Backend σ) (b : Batch σ) (action : Action) :
    b.moment.horizon ≤ (b.act backend action).moment.horizon := by
  cases action with
  | drop i => exact Nat.le_refl _
  | sleep nanos =>
    simp only [act, sleep]
    split
    · exact Nat.le_refl _
    · have := Bool.toNat_le b.moment.settled
      simp only [advance, clock, start, Moment.horizon, Bool.toNat_false]
      omega
  | wait i timeout =>
    have unmoved : (if timeout.toNanos = 0 then b else b.start backend).moment = b.moment := by
      split <;> rfl
    simp only [act, wait]
    generalize (if timeout.toNanos = 0 then b else b.start backend) = started at unmoved ⊢
    rw [← unmoved]
    split
    · exact Flight.horizon_le_wait _ _ _
    all_goals exact Nat.le_refl _

theorem horizon_le_heldUntil (backend : Backend σ) (b : Batch σ) (q : Query)
    (actions : List Action) : b.moment.horizon ≤ (b.heldUntil backend q actions).horizon := by
  induction actions generalizing b with
  | nil => exact Nat.le_refl _
  | cons action rest ih =>
    rw [heldUntil]
    split
    · exact Nat.le_trans (b.horizon_le_act backend action) (ih _)
    · exact Nat.le_refl _

structure Flying (b : Batch σ) : Prop where
  started : b.waiting = []
  on : b.world.cache.isSome
  distinct : (b.flights.map (·.query)).Nodup
  settled : b.world.Settled b.moment b.flights

theorem act_of_started (backend : Backend σ) (started : b.waiting = []) (action : Action) :
    b.act backend action = b ∨ (∃ i, b.act backend action = b.drop i) ∨
      ∃ m, b.act backend action = b.advance m := by
  cases action with
  | drop i => exact .inr (.inl ⟨i, rfl⟩)
  | sleep nanos =>
    simp only [act, sleep, start_of_started started]
    split
    · exact .inl rfl
    · exact .inr (.inr ⟨_, rfl⟩)
  | wait i timeout =>
    simp only [act, wait, start_of_started started, ite_self]
    split
    · exact .inr (.inr ⟨_, rfl⟩)
    · exact .inl rfl
    · exact .inl rfl
    · exact .inl rfl

namespace Flying

theorem holds_iff (flying : b.Flying) {q : Query} : b.Holds q ↔ q ∈ b.flights.map (·.query) := by
  simp [Batch.holds_iff, flying.started]

theorem drop (flying : b.Flying) (i : Nat) : (b.drop i).Flying where
  started := List.sublist_nil.1 (flying.started ▸ b.waiting_drop_sublist i)
  on := flying.on
  distinct := flying.distinct.sublist ((b.flights_drop_sublist i).map _)
  settled := fun f member => flying.settled f ((b.flights_drop_sublist i).subset member)

theorem advance (flying : b.Flying) {m : Moment} (after : b.moment.horizon ≤ m.horizon) :
    (b.advance m).Flying where
  started := flying.started
  on := by simpa [Batch.advance] using flying.on
  distinct := flying.distinct
  settled := flying.settled.keepAll flying.on flying.distinct after

theorem act (backend : Backend σ) (flying : b.Flying) (action : Action) :
    (b.act backend action).Flying ∧ (b.act backend action).flights.Sublist b.flights ∧
      (b.act backend action).world.executions = b.world.executions ∧
      ∀ q ∉ (b.act backend action).flights.map (·.query),
        (b.act backend action).world.cached? q = b.world.cached? q ∧
          (q ∈ b.flights.map (·.query) → (b.act backend action).moment = b.moment) := by
  have after := b.horizon_le_act backend action
  rcases act_of_started backend flying.started action with same | ⟨i, same⟩ | ⟨m, same⟩
  · rw [same]
    exact ⟨flying, List.Sublist.refl _, rfl, fun q _ => ⟨rfl, fun _ => rfl⟩⟩
  · rw [same]
    exact ⟨flying.drop i, b.flights_drop_sublist i, rfl, fun q _ => ⟨rfl, fun _ => rfl⟩⟩
  · rw [same] at after ⊢
    refine ⟨flying.advance after, List.Sublist.refl _, World.executions_keepAll, ?_⟩
    intro q outside
    exact ⟨World.cached?_keepAll_of_not_mem outside, fun inside => absurd inside outside⟩

theorem actAll (backend : Backend σ) (flying : b.Flying) (actions : List Action) :
    (b.actAll backend actions).world.cache.isSome ∧
      (b.actAll backend actions).world.executions = b.world.executions ∧
      (∀ f ∈ b.flights, (b.actAll backend actions).world.cached? f.query =
        f.course.answerAt? (b.heldUntil backend f.query actions)) ∧
      ∀ q ∉ b.flights.map (·.query),
        (b.actAll backend actions).world.cached? q = b.world.cached? q := by
  induction actions generalizing b with
  | nil => exact ⟨flying.on, rfl, flying.settled, fun _ _ => rfl⟩
  | cons action rest ih =>
    obtain ⟨next, fewer, executions, still⟩ := flying.act backend action
    obtain ⟨on, later, kept, others⟩ := ih next
    refine ⟨on, later.trans executions, ?_, ?_⟩
    · intro f member
      have inBatch : f.query ∈ b.flights.map (·.query) := List.mem_map_of_mem member
      rw [heldUntil_cons (flying.holds_iff.2 inBatch)]
      by_cases held : f.query ∈ (b.act backend action).flights.map (·.query)
      · obtain ⟨g, stays, same⟩ := List.mem_map.1 held
        obtain rfl : g = f :=
          List.inj_on_of_nodup_map flying.distinct (fewer.subset stays) member same
        exact kept g stays
      -- The action has dropped the handle, so the cache stays as it is from here on.
      · obtain ⟨unmoved, moment⟩ := still f.query held
        rw [heldUntil_of_not_holds (mt next.holds_iff.1 held), moment inBatch]
        exact (others f.query held).trans (unmoved.trans (flying.settled f member))
    · intro q outside
      have gone : q ∉ (b.act backend action).flights.map (·.query) :=
        fun held => outside ((fewer.map _).subset held)
      exact (others q gone).trans (still q gone).1

end Flying

structure Resting (b : Batch σ) : Prop where
  resting : b.flights = []
  on : b.world.cache.isSome
  distinct : b.waiting.Nodup
  moment : b.moment = .start

namespace Resting

theorem drop (resting : b.Resting) (i : Nat) : (b.drop i).Resting where
  resting := List.sublist_nil.1 (resting.resting ▸ b.flights_drop_sublist i)
  on := resting.on
  distinct := resting.distinct.sublist (b.waiting_drop_sublist i)
  moment := resting.moment

theorem launched (backend : Backend σ) (resting : b.Resting) :
    b.world.Launched b.waiting (b.start backend).flights (b.start backend).world := by
  rw [flights_start resting.resting, world_start resting.resting]
  exact World.launched_startAll backend _ resting.distinct

theorem start (backend : Backend σ) (resting : b.Resting) : (b.start backend).Flying where
  started := waiting_start
  on := (resting.launched backend).cache.trans resting.on
  distinct := by
    rw [(resting.launched backend).asked]
    exact resting.distinct
  settled := by
    have moment : (b.start backend).moment = .start := resting.moment
    rw [moment]
    exact (resting.launched backend).settled resting.on

theorem act (backend : Backend σ) (resting : b.Resting) (action : Action) :
    ((b.act backend action).Resting ∧ (b.act backend action).world = b.world ∧
        (b.act backend action).waiting.Sublist b.waiting) ∨
      b.act backend action = (b.start backend).act backend action := by
  have still (next : Batch σ) (same : next = b) :
      next.Resting ∧ next.world = b.world ∧ next.waiting.Sublist b.waiting := by
    subst same
    exact ⟨resting, rfl, List.Sublist.refl _⟩
  cases takes : action.takesTime with
  | true => exact .inr (act_start takes).symm
  | false =>
    left
    cases action with
    | drop i => exact ⟨resting.drop i, rfl, b.waiting_drop_sublist i⟩
    | sleep nanos =>
      have zero : nanos = 0 := by simpa [Action.takesTime] using takes
      exact still _ (if_pos zero)
    | wait i timeout =>
      have zero : timeout.toNanos = 0 := by simpa [Action.takesTime] using takes
      refine still _ ?_
      simp only [Batch.act, wait, zero, if_true]
      split
      next f found =>
        have member : f ∈ b.flights := by
          rw [flights_eq, List.mem_filterMap]
          exact ⟨_, List.mem_of_getElem? found, rfl⟩
        rw [resting.resting] at member
        exact absurd member List.not_mem_nil
      all_goals rfl

theorem actAll (backend : Backend σ) (resting : b.Resting) (actions : List Action) :
    ∃ new, b.world.Grew (b.actAll backend actions).world new
        (fun q => b.heldUntil backend q actions) ∧ ∀ e ∈ new, e.query ∈ b.waiting := by
  induction actions generalizing b with
  | nil => exact ⟨[], World.Grew.refl resting.on _, by simp⟩
  | cons action rest ih =>
    rcases resting.act backend action with ⟨next, world, fewer⟩ | started
    · obtain ⟨new, grew, asked⟩ := ih next
      rw [world] at grew
      have inBatch : ∀ e ∈ new, e.query ∈ b.waiting := fun e member => fewer.subset (asked e member)
      refine ⟨new, grew.congr fun e member => ?_, inBatch⟩
      exact (heldUntil_cons (holds_of_mem_waiting (inBatch e member)) action rest).symm
    · obtain ⟨on, executions, kept, others⟩ :=
        (resting.start backend).actAll backend (action :: rest)
      have same : b.actAll backend (action :: rest) =
          (b.start backend).actAll backend (action :: rest) := by
        simp only [Batch.actAll, List.foldl_cons, started]
      have launched := resting.launched backend
      have inBatch : ∀ e ∈ b.world.missed (b.start backend).flights, e.query ∈ b.waiting := by
        intro e member
        obtain ⟨f, inFlights, -, rfl⟩ := World.mem_missed.1 member
        exact launched.query_mem inFlights
      rw [← same] at on executions kept others
      have grew : b.world.Grew (b.actAll backend (action :: rest)).world
          (b.world.missed (b.start backend).flights)
          fun q => (b.start backend).heldUntil backend q (action :: rest) := by
        have onward (q : Query) := (b.start backend).horizon_le_heldUntil backend q (action :: rest)
        rw [show (b.start backend).moment = .start from resting.moment] at onward
        refine launched.grew resting.distinct onward on executions kept fun q outside => ?_
        rw [others q (launched.asked ▸ outside), launched.others q outside]
      refine ⟨_, grew.congr fun e member => ?_, inBatch⟩
      have holds := holds_of_mem_waiting (inBatch e member)
      rw [heldUntil_cons (holds_start.2 holds), heldUntil_cons holds, started]

end Resting

theorem resting_submit (on : w.cache.isSome) {queries : List Query} (distinct : queries.Nodup) :
    (submit w queries).Resting where
  resting := by simp [flights_eq, submit, Handle.flight?]
  on := on
  distinct := by
    have waiting : (submit w queries).waiting = queries := by
      simp [Batch.waiting, submit, List.filterMap_map, Function.comp_def, Handle.waiting?]
    rw [waiting]
    exact distinct
  moment := rfl

end Batch

end PeriodCompare
