set_option autoImplicit false

namespace PeriodCompare

def nanosPerSecond : Nat := 1000000000

structure Duration where
  secs : Nat
  nanos : Nat
  secs_lt : secs < 0x10000000000000000 := by decide
  nanos_lt : nanos < nanosPerSecond := by decide
  deriving DecidableEq

namespace Duration

def make? (secs nanos : Nat) : Option Duration :=
  if h : secs < 0x10000000000000000 ∧ nanos < nanosPerSecond then some ⟨secs, nanos, h.1, h.2⟩ else none

def ofMillis? (total : Nat) : Option Duration :=
  make? (total / 1000) (total % 1000 * 1000000)

def toNanos (d : Duration) : Nat :=
  nanosPerSecond * d.secs + d.nanos

def wholeMillis (d : Duration) : Nat :=
  d.secs * 1000 + d.nanos / 1000000

def ofSecs (secs : Nat) (h : secs < 0x10000000000000000 := by decide) : Duration :=
  ⟨secs, 0, h, by decide⟩

-- Zeros at the end are left out, and so is a point that no digit follows.
def decimalText (whole fraction places : Nat) : String :=
  if fraction = 0 then toString whole
  else
    let digits := (toString fraction).toList
    let padded := List.replicate (places - digits.length) '0' ++ digits
    toString whole ++ "." ++ String.ofList (padded.reverse.dropWhile (· == '0')).reverse

/-- One number in the largest unit of `s`, `ms`, `µs`, `ns` that has a whole part. -/
def text (d : Duration) : String :=
  if 0 < d.secs then decimalText d.secs d.nanos 9 ++ "s"
  else if 1000000 ≤ d.nanos then decimalText (d.nanos / 1000000) (d.nanos % 1000000) 6 ++ "ms"
  else if 1000 ≤ d.nanos then decimalText (d.nanos / 1000) (d.nanos % 1000) 3 ++ "µs"
  else toString d.nanos ++ "ns"

end Duration

end PeriodCompare
