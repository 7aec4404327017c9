set_option autoImplicit false

namespace PeriodCompare.Numeric

def signBit : Nat := 0x8000000000000000
def hiddenBit : Nat := 0x10000000000000

structure Binary where
  negative : Bool
  mantissa : Nat
  exponent : Int

def Binary.ofFloat? (x : Float) : Option Binary :=
  let bits := x.toBits.toNat
  let magnitude := bits % signBit
  let field := magnitude / hiddenBit
  let fraction := magnitude % hiddenBit
  if field = 2047 then none
  else if field = 0 then some ⟨bits ≥ signBit, fraction, -1074⟩
  else some ⟨bits ≥ signBit, fraction + hiddenBit, (field : Int) - 1075⟩

-- Exact when the mantissa fits a float.
def Binary.toFloat (b : Binary) : Float :=
  let magnitude := (Float.ofNat b.mantissa).scaleB b.exponent
  if b.negative then -magnitude else magnitude

def notANumber : Float := 0.0 / 0.0

/-- What is left of `x` after the whole multiples of `y`, with the sign of `x`. -/
def Binary.remainder (x y : Binary) : Binary :=
  let e := min x.exponent y.exponent
  let m := x.mantissa <<< (x.exponent - e).toNat
  let n := y.mantissa <<< (y.exponent - e).toNat
  ⟨x.negative, m % n, e⟩

def remainder (x y : Float) : Float :=
  match Binary.ofFloat? x, Binary.ofFloat? y with
  | some a, some b => if b.mantissa = 0 then notANumber else (a.remainder b).toFloat
  | some _, none => if y.isNaN then notANumber else x
  | none, _ => notANumber

-- The sign and the fraction of a NaN. Arithmetic shows neither, but the order by bits goes by both.
structure NaN where
  negative : Bool
  fraction : Nat
  fraction_pos : 0 < fraction
  fraction_lt : fraction < hiddenBit

namespace NaN

def bits (n : NaN) : Nat :=
  (if n.negative then signBit else 0) + 2047 * hiddenBit + n.fraction

def quiet (negative : Bool) : NaN :=
  ⟨negative, hiddenBit / 2, by decide, by decide⟩

-- A NaN comes through a sum. One that opposite infinities add up to has the sign set.
def ofSum : Float → List Float → NaN
  | _, [] => quiet false
  | sum, x :: rest => if (sum + x).isNaN then quiet (!x.isNaN) else ofSum (sum + x) rest

end NaN

/-- The place of a float by its sign and its bits: negative zero lies below zero, and a NaN, which
has the bits of `nan`, beyond the infinity of its sign. -/
def rank (nan : NaN) (x : Float) : Int :=
  let bits := if x.isNaN then nan.bits else x.toBits.toNat
  if bits < signBit then bits else (signBit : Int) - 1 - bits

end PeriodCompare.Numeric
