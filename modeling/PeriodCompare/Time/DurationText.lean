import PeriodCompare.Numeric.Decimal
import PeriodCompare.Text.Character
import PeriodCompare.Time.Duration

set_option autoImplicit false

namespace PeriodCompare

namespace Duration

def limit : Nat := 0x10000000000000000

-- A unit of less than a minute counts nanoseconds, a larger one seconds.
inductive NamedUnit where
  | nanos (each : Nat)
  | seconds (each : Nat)
  deriving DecidableEq

def unitNames : List (List String × NamedUnit) :=
  [(["nanos", "nsec", "ns"], .nanos 1),
    (["usec", "us", "µs"], .nanos 1000),
    (["millis", "msec", "ms"], .nanos 1000000),
    (["seconds", "second", "secs", "sec", "s"], .seconds 1),
    (["minutes", "minute", "min", "mins", "m"], .seconds 60),
    (["hours", "hour", "hr", "hrs", "h"], .seconds 3600),
    (["days", "day", "d"], .seconds 86400),
    (["weeks", "week", "wk", "wks", "w"], .seconds 604800),
    (["months", "month", "M"], .seconds 2630016),
    (["years", "year", "yr", "yrs", "y"], .seconds 31557600)]

def unit? (name : List Char) : Option NamedUnit :=
  (unitNames.find? fun (names, _) => names.any (·.toList = name)).map (·.2)

def small? (n : Nat) : Option Nat :=
  if n < limit then some n else none

def plus? (d : Duration) (secs nanos : Nat) : Option Duration := do
  let nanos ← small? (d.nanos + nanos)
  make? (d.secs + (secs + nanos / nanosPerSecond)) (nanos % nanosPerSecond)

structure Fraction where
  numerator : Nat
  denominator : Nat

def Fraction.ofDigits? (digits : List Char) : Option Fraction := do
  let numerator ← Numeric.digits? 10 digits
  let denominator ← small? (Nat.pow 10 digits.length)
  return ⟨numerator, denominator⟩

def Fraction.of? (f : Fraction) (amount : Nat) : Option Nat := do
  let product ← small? (f.numerator * amount)
  if product % f.denominator = 0 then some (product / f.denominator) else none

def addWhole? (d : Duration) (count : Nat) : NamedUnit → Option Duration
  | .nanos each => do d.plus? 0 (← small? (count * each))
  | .seconds each => do d.plus? (← small? (count * each)) 0

-- A nanosecond has no fractions; from an hour on, fractions come out in whole seconds.
def addFraction? (d : Duration) (f : Fraction) : NamedUnit → Option Duration
  | .nanos each => if each = 1 then none else do d.plus? 0 (← f.of? each)
  | .seconds each =>
    if each < 3600 then do d.plus? 0 (← f.of? (each * nanosPerSecond))
    else do d.plus? (← f.of? each) 0

def isUnitChar (c : Char) : Bool :=
  c.isAlpha || c == 'µ'

def isCountChar (c : Char) : Bool :=
  c.isDigit || Text.isBlank c

-- Digits, among which blanks do not count.
def takeCount (cs : List Char) : List Char × List Char :=
  ((cs.takeWhile isCountChar).filter Char.isDigit, cs.dropWhile isCountChar)

def takeFraction? : List Char → Option (Option Fraction × List Char)
  | '.' :: rest => do
    let (digits, rest) := takeCount rest
    return (some (← Fraction.ofDigits? digits), rest)
  | rest => some (none, rest)

-- A number with its unit, added to `d`. A digit or a blank may follow, or nothing.
def takePart? (d : Duration) (cs : List Char) : Option (Duration × List Char) := do
  let (digits, rest) := takeCount cs
  let count ← small? (← Numeric.digits? 10 digits)
  let (fraction, rest) ← takeFraction? rest
  let unit ← unit? (rest.takeWhile isUnitChar)
  let whole ← d.addWhole? count unit
  let sum ← match fraction with
    | some f => whole.addFraction? f unit
    | none => some whole
  let rest := rest.dropWhile isUnitChar
  if rest.head?.all isCountChar then some (sum, rest) else none

def takeParts? (fuel : Nat) (d : Duration) (cs : List Char) : Option Duration :=
  match fuel with
  | 0 => none
  | fuel + 1 => do
    let (d, rest) ← takePart? d (cs.dropWhile Text.isBlank)
    if rest.all Text.isBlank then some d else takeParts? fuel d rest

def zero : Duration := ofSecs 0

def read? (s : String) : Option Duration :=
  if s = "0" then some zero else takeParts? s.length zero s.toList

def writtenPart (count : Nat) (unit : String) : List String :=
  if count = 0 then [] else [toString count ++ unit]

def plural (count : Nat) (unit : String) : List String :=
  writtenPart count (if 1 < count then unit ++ "s" else unit)

def writtenParts (d : Duration) : List String :=
  let afterYears := d.secs % 31557600
  let afterMonths := afterYears % 2630016
  let ofDay := afterMonths % 86400
  plural (d.secs / 31557600) "year" ++ plural (afterYears / 2630016) "month" ++
    plural (afterMonths / 86400) "day" ++ writtenPart (ofDay / 3600) "h" ++
    writtenPart (ofDay % 3600 / 60) "m" ++ writtenPart (ofDay % 60) "s" ++
    writtenPart (d.nanos / 1000000) "ms" ++ writtenPart (d.nanos / 1000 % 1000) "us" ++
    writtenPart (d.nanos % 1000) "ns"

def written (d : Duration) : String :=
  match d.writtenParts with
  | [] => "0s"
  | parts => " ".intercalate parts

end Duration

end PeriodCompare
