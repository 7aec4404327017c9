set_option autoImplicit false

namespace PeriodCompare.Numeric

def digitValue? (base : Nat) (c : Char) : Option Nat :=
  let value :=
    if '0' ≤ c ∧ c ≤ '9' then some (c.toNat - '0'.toNat)
    else if 'a' ≤ c ∧ c ≤ 'z' then some (c.toNat - 'a'.toNat + 10)
    else if 'A' ≤ c ∧ c ≤ 'Z' then some (c.toNat - 'A'.toNat + 10)
    else none
  value.filter (· < base)

def isDigit (base : Nat) (c : Char) : Bool :=
  (digitValue? base c).isSome

def digitsFrom (base : Nat) (acc : Nat) : List Char → Option Nat
  | [] => some acc
  | c :: rest => do digitsFrom base (acc * base + (← digitValue? base c)) rest

-- At least one digit, and nothing else.
def digits? (base : Nat) (cs : List Char) : Option Nat :=
  if cs.isEmpty then none else digitsFrom base 0 cs

-- Powers that leave the range of floats either way are not computed.
def scaled (mantissa : Nat) (exponent : Int) : Float :=
  let places : Int := (toString mantissa).length + exponent
  if mantissa = 0 || places < -330 then 0.0
  else if 310 < places then 1.0 / 0.0
  else if exponent < 0 then Float.ofScientific mantissa true (-exponent).toNat
  else Float.ofScientific mantissa false exponent.toNat

structure Decimal where
  whole : List Char
  fraction : Option (List Char)
  -- The sign is present for a minus or a plus.
  exponent : Option (Option Char × List Char)

namespace Decimal

def exponentValue? (d : Decimal) : Option Int :=
  match d.exponent with
  | none => some 0
  | some (sign, digits) => do
    let n ← digits? 10 digits
    return if sign = some '-' then -(n : Int) else n

-- A digit must stand before or after the point, and in an exponent that is marked.
def value? (d : Decimal) : Option Float := do
  let fraction := d.fraction.getD []
  let mantissa ← digits? 10 (d.whole ++ fraction)
  let exponent ← d.exponentValue?
  return scaled mantissa (exponent - fraction.length)

def isSign (c : Char) : Bool := c == '+' || c == '-'

def takeFraction : List Char → Option (List Char) × List Char
  | '.' :: rest => (some (rest.takeWhile (isDigit 10)), rest.dropWhile (isDigit 10))
  | cs => (none, cs)

def takeExponent : List Char → Option (Option Char × List Char) × List Char
  | c :: rest =>
    if c = 'e' || c = 'E' then
      let sign := rest.head?.filter isSign
      let digits := if sign.isSome then rest.drop 1 else rest
      (some (sign, digits.takeWhile (isDigit 10)), digits.dropWhile (isDigit 10))
    else (none, c :: rest)
  | [] => (none, [])

-- The longest start that looks like a decimal number, which may lack digits.
def take (cs : List Char) : Decimal × List Char :=
  let whole := cs.takeWhile (isDigit 10)
  let (fraction, rest) := takeFraction (cs.dropWhile (isDigit 10))
  let (exponent, rest) := takeExponent rest
  (⟨whole, fraction, exponent⟩, rest)

end Decimal

end PeriodCompare.Numeric
