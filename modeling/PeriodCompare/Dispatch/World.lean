import PeriodCompare.Dispatch.Flight
import PeriodCompare.Table

set_option autoImplicit false

namespace PeriodCompare

structure Backend (σ : Type) where
  execute : σ → Query → Course × σ

def Backend.pure (f : Query → Course) : Backend Unit :=
  ⟨fun _ q => (f q, ())⟩

abbrev Answers := Table Query Answer

structure Execution where
  query : Query
  course : Course

structure World (σ : Type) where
  backend : σ
  cache : Option Answers
  -- In order of arrival.
  executions : List Execution

namespace World

variable {σ : Type}

def received (w : World σ) : List Query :=
  w.executions.map (·.query)

def cached? (w : World σ) (q : Query) : Option Answer :=
  w.cache.bind (·.get? q)

def store (w : World σ) (q : Query) (a : Answer) : World σ :=
  { w with cache := w.cache.map (·.insert q a) }

def keep (m : Moment) (w : World σ) (f : Flight) : World σ :=
  if f.doneBy m then
    match f.outcome with
    | .ok answer => w.store f.query answer
    | .error _ => w
  else w

-- A query whose answer is cached does not reach the backend.
def start (backend : Backend σ) (w : World σ) (q : Query) : Flight × World σ :=
  match w.cached? q with
  | some answer => (⟨q, some 0, .ok answer⟩, w)
  | none =>
    let (course, state) := backend.execute w.backend q
    let flight := ⟨q, course.latency, course.outcome⟩
    let executions := w.executions ++ [⟨q, course⟩]
    (flight, keep .start { w with backend := state, executions } flight)

def startAll (backend : Backend σ) (w : World σ) : List Query → List Flight × World σ
  | [] => ([], w)
  | q :: rest =>
    let (flight, w) := w.start backend q
    let (flights, w) := w.startAll backend rest
    (flight :: flights, w)

def keepAll (m : Moment) (w : World σ) (flights : List Flight) : World σ :=
  flights.foldl (keep m) w

/-- Runs a batch to the end of a wait. What has not completed by then is abandoned. A wait of no
length ends before any query starts. -/
def run (backend : Backend σ) (timeout : Duration)
    (await : List Flight → Moment × Checked (List (Query × Answer)))
    (w : World σ) (queries : List Query) : Checked Answers × World σ :=
  match queries with
  | [] => (.ok .empty, w)
  | q :: _ =>
    if timeout.toNanos = 0 then (.error (.backendTimeout q.text timeout), w)
    else
      let (flights, w) := w.startAll backend queries
      let (m, answers) := await flights
      (answers.map .ofList, w.keepAll m flights)

def runInTurn (backend : Backend σ) (timeout : Duration) :
    World σ → List Query → Checked Answers × World σ :=
  run backend timeout (awaitInTurn timeout .start)

def runTogether (backend : Backend σ) (timeout : Duration) :
    World σ → List Query → Checked Answers × World σ :=
  run backend timeout (awaitTogether timeout)

end World

end PeriodCompare
