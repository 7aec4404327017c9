import PeriodCompare.Failure
import PeriodCompare.Query

set_option autoImplicit false

namespace PeriodCompare

/-- What becomes of a query: when it completes after its start, if ever, and with what. -/
structure Course where
  latency : Option Nat
  outcome : Checked Answer

structure Flight where
  query : Query
  due : Option Nat
  outcome : Checked Answer

-- A time on the clock, in nanoseconds since all queries of a batch started. Once it is settled, what
-- is due just then has come about.
structure Moment where
  clock : Nat
  settled : Bool

namespace Moment

def start : Moment := ⟨0, true⟩

def includes (m : Moment) (due : Nat) : Bool :=
  due < m.clock || (m.settled && due == m.clock)

def horizon (m : Moment) : Nat :=
  m.clock + m.settled.toNat

theorem includes_iff {m : Moment} {due : Nat} : m.includes due ↔ due < m.horizon := by
  rcases m with ⟨clock, settled⟩
  cases settled <;> simp [includes, horizon]
  omega

theorem le_clock {m : Moment} {due : Nat} (early : m.includes due) : due ≤ m.clock := by
  have bound := Bool.toNat_le m.settled
  rw [includes_iff, horizon] at early
  omega

end Moment

namespace Flight

def doneBy (f : Flight) (m : Moment) : Bool :=
  f.due.any m.includes

def timedOut (f : Flight) (timeout : Duration) : Failure :=
  .backendTimeout f.query.text timeout

/-- Waits for at most `timeout`. When the query ends the wait, so does all else that is due by then.
When the time is up, what is due just then is still to come. -/
def wait (f : Flight) (timeout : Duration) (m : Moment) : Moment × Checked Answer :=
  let deadline := m.clock + timeout.toNanos
  if f.doneBy m then (m, f.outcome)
  else
    match f.due.filter (· < deadline) with
    | some due => (⟨due, true⟩, f.outcome)
    | none => (if timeout.toNanos = 0 then m else ⟨deadline, false⟩, .error (f.timedOut timeout))

def failure? (f : Flight) (timeout : Duration) : Option (Nat × Failure) :=
  match f.due.filter (· < timeout.toNanos) with
  | none => some (timeout.toNanos, f.timedOut timeout)
  | some due =>
    match f.outcome with
    | .ok _ => none
    | .error e => some (due, e)

def answer? (f : Flight) : Option (Query × Answer) :=
  f.outcome.toOption.map fun answer => (f.query, answer)

end Flight

-- Waits for one query after the other, each for at most `timeout`; the first failure ends it.
def awaitInTurn (timeout : Duration) :
    Moment → List Flight → Moment × Checked (List (Query × Answer))
  | m, [] => (m, .ok [])
  | m, f :: rest =>
    match f.wait timeout m with
    | (m, .error e) => (m, .error e)
    | (m, .ok answer) =>
      let (m, answers) := awaitInTurn timeout m rest
      (m, answers.map ((f.query, answer) :: ·))

-- Of several failures at one time, the first counts.
def earliest : List (Nat × Failure) → Option (Nat × Failure)
  | [] => none
  | first :: rest =>
    match earliest rest with
    | none => some first
    | some other => if other.1 < first.1 then some other else some first

def lastDue (flights : List Flight) : Nat :=
  flights.foldl (fun clock f => max clock (f.due.getD 0)) 0

-- Before the time is up, a failure comes from a query.
def awaitEarliest (timeout : Duration) (flights : List Flight) :
    Moment × Checked (List (Query × Answer)) :=
  match earliest (flights.filterMap (·.failure? timeout)) with
  | some (clock, e) => (⟨clock, clock < timeout.toNanos⟩, .error e)
  | none => (⟨lastDue flights, true⟩, .ok (flights.filterMap Flight.answer?))

-- A failure shows only when all queries before it have been answered.
def awaitInOrder (timeout : Duration) :
    Nat → List Flight → Moment × Checked (List (Query × Answer))
  | clock, [] => (⟨clock, true⟩, .ok [])
  | clock, f :: rest =>
    match f.wait timeout .start with
    | (m, .error e) => (⟨max clock m.clock, m.settled⟩, .error e)
    | (m, .ok answer) =>
      let (m, answers) := awaitInOrder timeout (max clock m.clock) rest
      (m, answers.map ((f.query, answer) :: ·))

-- The most queries that are watched side by side.
def maxWatched : Nat := 30

/-- Waits for all queries at once, each for at most `timeout`. The earliest failure ends it, or in a
large batch the first one in the order of the queries. -/
def awaitTogether (timeout : Duration) (flights : List Flight) :
    Moment × Checked (List (Query × Answer)) :=
  if flights.length ≤ maxWatched then awaitEarliest timeout flights
  else awaitInOrder timeout 0 flights

end PeriodCompare
