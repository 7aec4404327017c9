import PeriodCompare.Time.Duration

set_option autoImplicit false

namespace PeriodCompare

def minMillis : Int := -9223372036854775808
def maxMillis : Int := 9223372036854775807

structure Instant where
  millis : Int
  min_le : minMillis ≤ millis
  le_max : millis ≤ maxMillis
  deriving DecidableEq

namespace Instant

instance : LE Instant := ⟨fun a b => a.millis ≤ b.millis⟩
instance : LT Instant := ⟨fun a b => a.millis < b.millis⟩

instance (a b : Instant) : Decidable (a ≤ b) := inferInstanceAs (Decidable (a.millis ≤ b.millis))
instance (a b : Instant) : Decidable (a < b) := inferInstanceAs (Decidable (a.millis < b.millis))

theorem le_def (a b : Instant) : a ≤ b ↔ a.millis ≤ b.millis := Iff.rfl
theorem lt_def (a b : Instant) : a < b ↔ a.millis < b.millis := Iff.rfl

@[ext] theorem ext {a b : Instant} (h : a.millis = b.millis) : a = b := by
  cases a; cases b; simp_all

def ofMillis? (n : Int) : Option Instant :=
  if h : minMillis ≤ n ∧ n ≤ maxMillis then some ⟨n, h.1, h.2⟩ else none

def ofMillis (n : Int) : Instant :=
  ⟨max minMillis (min n maxMillis), by simp only [minMillis, maxMillis]; omega,
    by simp only [minMillis, maxMillis]; omega⟩

@[simp] theorem millis_ofMillis (n : Int) :
    (ofMillis n).millis = max minMillis (min n maxMillis) := rfl

theorem millis_ofMillis_of_mem {n : Int} (low : minMillis ≤ n) (high : n ≤ maxMillis) :
    (ofMillis n).millis = n := by
  simp only [millis_ofMillis]; omega

@[simp] theorem ofMillis_millis (t : Instant) : ofMillis t.millis = t :=
  ext (millis_ofMillis_of_mem t.min_le t.le_max)

def shift (t : Instant) (offset : Int) : Instant :=
  ofMillis (t.millis + offset)

-- A duration counts in whole milliseconds, and at most as many as the last instant has.
def span (d : Duration) : Int :=
  min d.wholeMillis maxMillis

def add (t : Instant) (d : Duration) : Instant :=
  t.shift (span d)

def sub (t : Instant) (d : Duration) : Instant :=
  t.shift (-span d)

def millisSince (t origin : Instant) : Int :=
  t.millis - origin.millis

def text (t : Instant) : String :=
  toString t.millis ++ "ms"

end Instant

/-- A moment of the system clock, given by its distance from the epoch. -/
inductive SystemMoment where
  | after (distance : Duration)
  | before (distance : Duration)
  deriving DecidableEq

/-- Whether a clock shows a moment whose seconds it counts in 64 bits with a sign. Before the epoch a
second that has begun counts as a whole one. -/
def SystemMoment.hasSignedSeconds : SystemMoment → Bool
  | .after d => d.secs < 0x8000000000000000
  | .before d => d.secs + (if d.nanos = 0 then 0 else 1) ≤ 0x8000000000000000

namespace Instant

theorem natAbs_millis_le (t : Instant) : t.millis.natAbs ≤ 9223372036854775808 := by
  have low := t.min_le
  have high := t.le_max
  simp only [minMillis, maxMillis] at low high
  omega

theorem distance_secs_lt (t : Instant) : t.millis.natAbs / 1000 < 0x10000000000000000 := by
  have := t.natAbs_millis_le
  omega

theorem distance_nanos_lt (t : Instant) :
    t.millis.natAbs % 1000 * 1000000 < nanosPerSecond := by
  simp only [nanosPerSecond]
  omega

def distance (t : Instant) : Duration :=
  ⟨t.millis.natAbs / 1000, t.millis.natAbs % 1000 * 1000000, t.distance_secs_lt,
    t.distance_nanos_lt⟩

theorem secs_distance (t : Instant) : t.distance.secs = t.millis.natAbs / 1000 := rfl

theorem nanos_distance (t : Instant) : t.distance.nanos = t.millis.natAbs % 1000 * 1000000 := rfl

def toSystem (t : Instant) : SystemMoment :=
  if t.millis < 0 then .before t.distance else .after t.distance

-- Nothing when the instant lies outside what the clock shows.
def toSystem? (shows : SystemMoment → Bool) (t : Instant) : Option SystemMoment :=
  if shows t.toSystem then some t.toSystem else none

theorem toSystem?_eq_some {shows : SystemMoment → Bool} {t : Instant} {m : SystemMoment} :
    t.toSystem? shows = some m ↔ shows m ∧ t.toSystem = m := by
  simp only [toSystem?, Option.ite_none_right_eq_some, Option.some.injEq]
  constructor
  · rintro ⟨shown, rfl⟩
    exact ⟨shown, rfl⟩
  · rintro ⟨shown, rfl⟩
    exact ⟨shown, rfl⟩

-- A moment before the epoch is no earlier than the negated last instant.
def ofSystem : SystemMoment → Instant
  | .after d => ofMillis (span d)
  | .before d => ofMillis (-span d)

end Instant

structure Interval where
  start : Instant
  finish : Instant
  start_lt_finish : start < finish
  deriving DecidableEq

namespace Interval

@[ext] theorem ext {a b : Interval} (hs : a.start = b.start) (hf : a.finish = b.finish) :
    a = b := by
  cases a; cases b; simp_all

def make? (start finish : Instant) : Option Interval :=
  if h : start < finish then some ⟨start, finish, h⟩ else none

def contains (i : Interval) (t : Instant) : Bool :=
  decide (i.start ≤ t ∧ t < i.finish)

def millis (i : Interval) : Int :=
  i.finish.millisSince i.start

theorem millis_pos (i : Interval) : 0 < i.millis := by
  have h := i.start_lt_finish
  simp only [Instant.lt_def] at h
  simp only [millis, Instant.millisSince]
  omega

def text (i : Interval) : String :=
  "[" ++ i.start.text ++ ", " ++ i.finish.text ++ ")"

end Interval

end PeriodCompare
