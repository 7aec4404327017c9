import PeriodCompare.Numeric.Decimal

set_option autoImplicit false

namespace PeriodCompare.Json

open Numeric (isDigit digits?)

structure Number where
  negative : Bool
  decimal : Numeric.Decimal

inductive Value where
  | null
  | boolean (b : Bool)
  | number (n : Number)
  | string (content : Option String)
  | array (items : List Value)
  | object (members : List (Option String × Value))

def isBlank (c : Char) : Bool :=
  c == ' ' || c == '\n' || c == '\t' || c == '\r'

def skip (cs : List Char) : List Char :=
  cs.dropWhile isBlank

def takeWhole? : List Char → Option (List Char × List Char)
  | '0' :: rest => some (['0'], rest)
  | cs =>
    let digits := cs.takeWhile (isDigit 10)
    if digits.isEmpty then none else some (digits, cs.dropWhile (isDigit 10))

-- A point or an exponent needs digits after it.
def takeNumber? (negative : Bool) (cs : List Char) : Option (Value × List Char) := do
  let (whole, rest) ← takeWhole? cs
  let (fraction, rest) := Numeric.Decimal.takeFraction rest
  let (exponent, rest) := Numeric.Decimal.takeExponent rest
  if fraction = some [] || exponent.any (·.2.isEmpty) then none
  else some (.number ⟨negative, ⟨whole, fraction, exponent⟩⟩, rest)

/-- A piece of a string: a code point, or half of a surrogate pair. -/
abbrev Piece := Char ⊕ Nat

def isHigh (n : Nat) : Bool := 0xd800 ≤ n && n < 0xdc00
def isLow (n : Nat) : Bool := 0xdc00 ≤ n && n < 0xe000

def ofCode (n : Nat) : Piece :=
  if h : n.isValidChar then .inl (Char.ofNatAux n h) else .inr n

def takeCode? (cs : List Char) : Option (Piece × List Char) := do
  let digits := cs.take 4
  let n ← digits? 16 digits
  if digits.length = 4 then some (ofCode n, cs.drop 4) else none

def doubleQuote : Char := '\x22'

def takeEscape? : List Char → Option (Piece × List Char)
  | '\x22' :: rest => some (.inl doubleQuote, rest)
  | '\\' :: rest => some (.inl '\\', rest)
  | '/' :: rest => some (.inl '/', rest)
  | 'b' :: rest => some (.inl '\x08', rest)
  | 'f' :: rest => some (.inl '\x0c', rest)
  | 'n' :: rest => some (.inl '\n', rest)
  | 'r' :: rest => some (.inl '\r', rest)
  | 't' :: rest => some (.inl '\t', rest)
  | 'u' :: rest => takeCode? rest
  | _ => none

-- The pieces of a string up to the closing quote; controls must be escaped.
def takePieces? (fuel : Nat) (cs : List Char) : Option (List Piece × List Char) :=
  match fuel, cs with
  | 0, _ => none
  | _, [] => none
  | fuel + 1, '\\' :: rest => do
    let (piece, rest) ← takeEscape? rest
    let (pieces, rest) ← takePieces? fuel rest
    return (piece :: pieces, rest)
  | fuel + 1, c :: rest =>
    if c = doubleQuote then some ([], rest)
    else if c < ' ' then none
    else do
      let (pieces, rest) ← takePieces? fuel rest
      return (.inl c :: pieces, rest)

-- Half of a surrogate pair is no text on its own.
def joinPieces? : List Piece → Option (List Char)
  | [] => some []
  | .inl c :: rest => (joinPieces? rest).map (c :: ·)
  | .inr high :: .inr low :: rest =>
    if isHigh high && isLow low then
      match ofCode (0x10000 + (high - 0xd800) * 0x400 + (low - 0xdc00)) with
      | .inl c => (joinPieces? rest).map (c :: ·)
      | .inr _ => none
    else none
  | .inr _ :: _ => none

def takeString? (cs : List Char) : Option (Option String × List Char) := do
  let (pieces, rest) ← takePieces? (cs.length + 1) cs
  return ((joinPieces? pieces).map String.ofList, rest)

mutual

def takeValue? (fuel : Nat) (cs : List Char) : Option (Value × List Char) :=
  match fuel, cs with
  | 0, _ => none
  | _, 'n' :: 'u' :: 'l' :: 'l' :: rest => some (.null, rest)
  | _, 't' :: 'r' :: 'u' :: 'e' :: rest => some (.boolean true, rest)
  | _, 'f' :: 'a' :: 'l' :: 's' :: 'e' :: rest => some (.boolean false, rest)
  | _, '\x22' :: rest => (takeString? rest).map fun (content, rest) => (.string content, rest)
  | _, '-' :: rest => takeNumber? true rest
  | fuel + 1, '[' :: rest =>
    match skip rest with
    | ']' :: rest => some (.array [], rest)
    | rest => (takeItems? fuel rest).map fun (items, rest) => (.array items, rest)
  | fuel + 1, '{' :: rest =>
    match skip rest with
    | '}' :: rest => some (.object [], rest)
    | rest => (takeMembers? fuel rest).map fun (members, rest) => (.object members, rest)
  | _, cs => takeNumber? false cs

def takeItems? (fuel : Nat) (cs : List Char) : Option (List Value × List Char) :=
  match fuel with
  | 0 => none
  | fuel + 1 => do
    let (item, rest) ← takeValue? fuel cs
    match skip rest with
    | ',' :: rest => do
      let (items, rest) ← takeItems? fuel (skip rest)
      return (item :: items, rest)
    | ']' :: rest => some ([item], rest)
    | _ => none

def takeMembers? (fuel : Nat) (cs : List Char) :
    Option (List (Option String × Value) × List Char) :=
  match fuel, cs with
  | fuel + 1, '\x22' :: rest => do
    let (key, rest) ← takeString? rest
    match skip rest with
    | ':' :: rest => do
      let (value, rest) ← takeValue? fuel (skip rest)
      match skip rest with
      | ',' :: rest => do
        let (members, rest) ← takeMembers? fuel (skip rest)
        return ((key, value) :: members, rest)
      | '}' :: rest => some ([(key, value)], rest)
      | _ => none
    | _ => none
  | _, _ => none

end

def read? (source : String) : Option Value := do
  let cs := skip source.toList
  match ← takeValue? (cs.length + 1) cs with
  | (value, rest) => if (skip rest).isEmpty then some value else none

end PeriodCompare.Json
