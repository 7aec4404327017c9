import PeriodCompare.Numeric.Decimal
import PeriodCompare.Toml.Value

set_option autoImplicit false

namespace PeriodCompare.Toml

open Numeric (isDigit digits?)

def isSpace (c : Char) : Bool :=
  c == ' ' || c == '\t'

-- Characters of comments and, apart from quotes, of texts: no controls other than a tab.
def isTextChar (c : Char) : Bool :=
  c == '\t' || (' ' ≤ c && c.toNat != 0x7f)

def takeNewline? : List Char → Option (List Char)
  | '\n' :: rest => some rest
  | '\r' :: '\n' :: rest => some rest
  | _ => none

def doubleQuote : Char := '\x22'
def singleQuote : Char := '\x27'

def scalarChar? (n : Nat) : Option Char :=
  if h : n.isValidChar then some (Char.ofNatAux n h) else none

def takeCodePoint? (count : Nat) (cs : List Char) : Option (Char × List Char) := do
  let digits := cs.take count
  if digits.length = count then
    return (← scalarChar? (← digits? 16 digits), cs.drop count)
  else none

def takeEscape? : List Char → Option (Char × List Char)
  | 'b' :: rest => some ('\x08', rest)
  | 't' :: rest => some ('\t', rest)
  | 'n' :: rest => some ('\n', rest)
  | 'f' :: rest => some ('\x0c', rest)
  | 'r' :: rest => some ('\r', rest)
  | '\x22' :: rest => some (doubleQuote, rest)
  | '\\' :: rest => some ('\\', rest)
  | 'u' :: rest => takeCodePoint? 4 rest
  | 'U' :: rest => takeCodePoint? 8 rest
  | _ => none

def takeBasic? (fuel : Nat) (cs : List Char) : Option (List Char × List Char) :=
  match fuel, cs with
  | 0, _ => none
  | _, [] => none
  | fuel + 1, '\\' :: rest => do
    let (c, rest) ← takeEscape? rest
    let (content, rest) ← takeBasic? fuel rest
    return (c :: content, rest)
  | fuel + 1, c :: rest =>
    if c = doubleQuote then some ([], rest)
    else if isTextChar c then do
      let (content, rest) ← takeBasic? fuel rest
      return (c :: content, rest)
    else none

def takeLiteral? (cs : List Char) : Option (List Char × List Char) :=
  let content := cs.takeWhile (· != singleQuote)
  match cs.dropWhile (· != singleQuote) with
  | _ :: rest => if content.all isTextChar then some (content, rest) else none
  | [] => none

-- At a run of quotes: the quotes that belong to the text, and the rest if the run ends the text. Up
-- to two quotes may stand before the three that end it.
def takeQuotes? (quote : Char) (cs : List Char) : Option (List Char × Option (List Char)) :=
  let run := cs.takeWhile (· == quote)
  if run.length < 3 then some (run, none)
  else if run.length ≤ 5 then some (run.drop 3, some (cs.drop run.length))
  else none

def dropBlankLines : List Char → List Char
  | '\r' :: '\n' :: rest => dropBlankLines rest
  | c :: rest => if isSpace c || c = '\n' then dropBlankLines rest else c :: rest
  | [] => []

-- A backslash at the end of a line drops all blanks up to the next text.
def takeJoin? (cs : List Char) : Option (List Char) :=
  (takeNewline? (cs.dropWhile isSpace)).map dropBlankLines

def takeLong? (escapes : Bool) (quote : Char) (fuel : Nat) (cs : List Char) :
    Option (List Char × List Char) :=
  match fuel, cs with
  | 0, _ => none
  | _, [] => none
  | fuel + 1, c :: rest =>
    if c = quote then do
      match ← takeQuotes? quote (c :: rest) with
      | (content, some rest) => some (content, rest)
      | (quotes, none) => do
        let (content, rest) ← takeLong? escapes quote fuel ((c :: rest).drop quotes.length)
        return (quotes ++ content, rest)
    else if escapes && c = '\\' then
      match takeJoin? rest with
      | some rest => takeLong? escapes quote fuel rest
      | none => do
        let (c, rest) ← takeEscape? rest
        let (content, rest) ← takeLong? escapes quote fuel rest
        return (c :: content, rest)
    else
      match takeNewline? (c :: rest) with
      | some rest => do
        let (content, rest) ← takeLong? escapes quote fuel rest
        return ('\n' :: content, rest)
      | none =>
        if isTextChar c then do
          let (content, rest) ← takeLong? escapes quote fuel rest
          return (c :: content, rest)
        else none

-- A newline right after the opening quotes does not count.
def afterOpening (cs : List Char) : List Char :=
  (takeNewline? cs).getD cs

def takeString? : List Char → Option (String × List Char)
  | '\x22' :: '\x22' :: '\x22' :: rest =>
    (takeLong? true doubleQuote (rest.length + 1) (afterOpening rest)).map
      fun (content, rest) => (String.ofList content, rest)
  | '\x27' :: '\x27' :: '\x27' :: rest =>
    (takeLong? false singleQuote (rest.length + 1) (afterOpening rest)).map
      fun (content, rest) => (String.ofList content, rest)
  | '\x22' :: rest =>
    (takeBasic? (rest.length + 1) rest).map fun (content, rest) => (String.ofList content, rest)
  | '\x27' :: rest =>
    (takeLiteral? rest).map fun (content, rest) => (String.ofList content, rest)
  | _ => none

-- Digits, between which single underscores may stand.
def takeGrouped (isOne : Char → Bool) : List Char → List Char × List Char
  | '_' :: c :: rest =>
    if isOne c then
      let (digits, rest) := takeGrouped isOne rest
      (c :: digits, rest)
    else ([], '_' :: c :: rest)
  | c :: rest =>
    if isOne c then
      let (digits, rest) := takeGrouped isOne rest
      (c :: digits, rest)
    else ([], c :: rest)
  | [] => ([], [])

def takeDigits? (isOne : Char → Bool) (cs : List Char) : Option (List Char × List Char) :=
  if cs.head?.any isOne then some (takeGrouped isOne cs) else none

-- A zero stands alone; other whole numbers start with another digit.
def takeWhole? : List Char → Option (List Char × List Char)
  | '0' :: rest => some (['0'], rest)
  | cs => takeDigits? (isDigit 10) cs

def takeSign : List Char → Bool × List Char
  | '-' :: rest => (true, rest)
  | '+' :: rest => (false, rest)
  | cs => (false, cs)

def minInteger : Int := -9223372036854775808
def maxInteger : Int := 9223372036854775807

def integer? (n : Int) : Option Value :=
  if minInteger ≤ n ∧ n ≤ maxInteger then some (.integer n) else none

def takeBased? (base : Nat) (cs : List Char) : Option (Value × List Char) := do
  let (digits, rest) ← takeDigits? (isDigit base) cs
  return (← integer? (← digits? base digits), rest)

def takeInteger? : List Char → Option (Value × List Char)
  | '0' :: 'x' :: rest => takeBased? 16 rest
  | '0' :: 'o' :: rest => takeBased? 8 rest
  | '0' :: 'b' :: rest => takeBased? 2 rest
  | cs => do
    let (negative, rest) := takeSign cs
    let (digits, rest) ← takeWhole? rest
    let n ← digits? 10 digits
    return (← integer? (if negative then -(n : Int) else n), rest)

def takePoint? : List Char → Option (Option (List Char) × List Char)
  | '.' :: rest => do
    let (digits, rest) ← takeDigits? (isDigit 10) rest
    return (some digits, rest)
  | cs => some (none, cs)

def takePower? : List Char → Option (Option (Option Char × List Char) × List Char)
  | [] => some (none, [])
  | c :: rest =>
    if c = 'e' || c = 'E' then do
      let (negative, rest) := takeSign rest
      let (digits, rest) ← takeDigits? (isDigit 10) rest
      return (some (if negative then some '-' else none, digits), rest)
    else some (none, c :: rest)

-- A number with a fraction or an exponent, or one that is no number; it must not be too large.
def takeFloat? (cs : List Char) : Option (Value × List Char) := do
  let (negative, rest) := takeSign cs
  match rest with
  | 'i' :: 'n' :: 'f' :: rest => some (.float, rest)
  | 'n' :: 'a' :: 'n' :: rest => some (.float, rest)
  | rest => do
    let (whole, rest) ← takeWhole? rest
    let (fraction, rest) ← takePoint? rest
    let (exponent, rest) ← takePower? rest
    if fraction.isNone && exponent.isNone then none
    else
      let d : Numeric.Decimal := ⟨whole, fraction, exponent⟩
      if (← d.value?).isInf && !negative then none else some (.float, rest)

def takeField? (count low high : Nat) (cs : List Char) : Option (Nat × List Char) := do
  let digits := cs.take count
  let n ← digits? 10 digits
  if digits.length = count && low ≤ n && n ≤ high then some (n, cs.drop count) else none

def takeMark? (mark : Char) : List Char → Option (List Char)
  | c :: rest => if c = mark then some rest else none
  | [] => none

def daysOfMonth (year month : Nat) : Nat :=
  if month = 2 then
    if year % 4 = 0 && (year % 100 != 0 || year % 400 = 0) then 29 else 28
  else if month = 4 || month = 6 || month = 9 || month = 11 then 30
  else 31

def takeDate? (cs : List Char) : Option (List Char) := do
  let (year, rest) ← takeField? 4 0 9999 cs
  let (month, rest) ← takeField? 2 1 12 (← takeMark? '-' rest)
  let (_, rest) ← takeField? 2 1 (daysOfMonth year month) (← takeMark? '-' rest)
  return rest

def takeTime? (cs : List Char) : Option (List Char) := do
  let (_, rest) ← takeField? 2 0 23 cs
  let (_, rest) ← takeField? 2 0 59 (← takeMark? ':' rest)
  let (_, rest) ← takeField? 2 0 60 (← takeMark? ':' rest)
  match rest with
  | '.' :: rest => if rest.head?.any Char.isDigit then some (rest.dropWhile Char.isDigit) else none
  | rest => some rest

def takeZone? : List Char → Option (List Char)
  | [] => some []
  | c :: rest =>
    if c = 'Z' || c = 'z' then some rest
    else if c = '+' || c = '-' then do
      let (_, rest) ← takeField? 2 0 23 rest
      let (_, rest) ← takeField? 2 0 59 (← takeMark? ':' rest)
      return rest
    else some (c :: rest)

-- A date, a time or both; a zone needs both.
def takeDateTime? (cs : List Char) : Option (Value × List Char) :=
  match takeDate? cs with
  | none => (takeTime? cs).map fun rest => (.dateTime, rest)
  | some rest =>
    match rest with
    | [] => some (.dateTime, [])
    | c :: after =>
      if c = 'T' || c = 't' then do return (.dateTime, ← takeZone? (← takeTime? after))
      else if c = ' ' then
        match takeTime? after with
        | some rest => (takeZone? rest).map fun rest => (.dateTime, rest)
        | none => some (.dateTime, c :: after)
      else some (.dateTime, c :: after)

def takeNumber? (cs : List Char) : Option (Value × List Char) :=
  ((takeDateTime? cs).or (takeFloat? cs)).or (takeInteger? cs)

end PeriodCompare.Toml
