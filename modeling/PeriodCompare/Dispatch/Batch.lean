import PeriodCompare.Dispatch.World

set_option autoImplicit false

namespace PeriodCompare

inductive Handle where
  | waiting (query : Query)
  | flying (flight : Flight)
  | dropped

namespace Handle

def isFinished? (m : Moment) : Handle → Option Bool
  | .waiting _ => some false
  | .flying f => some (f.doneBy m)
  | .dropped => none

end Handle

structure Batch (σ : Type) where
  world : World σ
  moment : Moment
  handles : List Handle

namespace Batch

variable {σ : Type}

def submit (w : World σ) (queries : List Query) : Batch σ :=
  ⟨w, .start, queries.map .waiting⟩

def clock (b : Batch σ) : Nat :=
  b.moment.clock

def startHandle (backend : Backend σ) (w : World σ) : Handle → Handle × World σ
  | .waiting q =>
    let (flight, w) := w.start backend q
    (.flying flight, w)
  | handle => (handle, w)

def startHandles (backend : Backend σ) (w : World σ) : List Handle → List Handle × World σ
  | [] => ([], w)
  | handle :: rest =>
    let (handle, w) := startHandle backend w handle
    let (handles, w) := startHandles backend w rest
    (handle :: handles, w)

def start (backend : Backend σ) (b : Batch σ) : Batch σ :=
  let (handles, world) := startHandles backend b.world b.handles
  { b with world, handles }

def flights (b : Batch σ) : List Flight :=
  b.handles.filterMap fun
    | .flying f => some f
    | _ => none

def advance (b : Batch σ) (moment : Moment) : Batch σ :=
  { b with moment, world := b.world.keepAll moment b.flights }

-- Waiting or sleeping for no time lets no query start.
def wait (backend : Backend σ) (b : Batch σ) (i : Nat) (timeout : Duration) :
    Checked Answer × Batch σ :=
  let b := if timeout.toNanos = 0 then b else b.start backend
  match b.handles[i]? with
  | some (.flying f) =>
    let (moment, outcome) := f.wait timeout b.moment
    (outcome, b.advance moment)
  | some (.waiting q) => (.error (.backendTimeout q.text timeout), b)
  | some .dropped | none => (.error (.backend .cancelled), b)

def sleep (backend : Backend σ) (b : Batch σ) (nanos : Nat) : Batch σ :=
  if nanos = 0 then b
  else
    let b := b.start backend
    b.advance ⟨b.clock + nanos, false⟩

def drop (b : Batch σ) (i : Nat) : Batch σ :=
  { b with handles := b.handles.set i .dropped }

def finished (b : Batch σ) : List (Option Bool) :=
  b.handles.map (·.isFinished? b.moment)

end Batch

end PeriodCompare
