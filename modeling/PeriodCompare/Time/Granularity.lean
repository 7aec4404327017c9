import PeriodCompare.Time.Instant

set_option autoImplicit false

namespace PeriodCompare

inductive TimeUnit where
  | milliseconds
  | seconds
  | minutes
  | hours
  | days
  | weeks
  deriving DecidableEq

namespace TimeUnit

def all : List TimeUnit :=
  [.milliseconds, .seconds, .minutes, .hours, .days, .weeks]

def millis : TimeUnit → Nat
  | .milliseconds => 1
  | .seconds => 1000
  | .minutes => 60000
  | .hours => 3600000
  | .days => 86400000
  | .weeks => 604800000

def text : TimeUnit → String
  | .milliseconds => "MILLISECONDS"
  | .seconds => "SECONDS"
  | .minutes => "MINUTES"
  | .hours => "HOURS"
  | .days => "DAYS"
  | .weeks => "WEEKS"

def ofText? (s : String) : Option TimeUnit :=
  all.find? (·.text == s)

theorem millis_pos (u : TimeUnit) : 0 < u.millis := by
  cases u <;> decide

end TimeUnit

structure Granularity where
  size : UInt32
  unit : TimeUnit
  deriving DecidableEq

namespace Granularity

def days (size : UInt32) : Granularity := ⟨size, .days⟩
def hours (size : UInt32) : Granularity := ⟨size, .hours⟩

def width (g : Granularity) : Nat :=
  g.size.toNat * g.unit.millis

def text (g : Granularity) : String :=
  toString g.size.toNat ++ "_" ++ g.unit.text

end Granularity

end PeriodCompare
