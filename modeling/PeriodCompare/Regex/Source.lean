import PeriodCompare.Numeric.Decimal
import PeriodCompare.Text.Character

set_option autoImplicit false

namespace PeriodCompare.Regex

structure Flags where
  -- Blanks and comments do not count.
  spaced : Bool
  -- Characters are those of Unicode and not single bytes.
  unicode : Bool

structure Source where
  rest : List Char
  flags : Flags
  groupNames : List (List Char)

abbrev Reader := StateT Source Option

namespace Reader

def rest : Reader (List Char) := return (← get).rest

def moveTo (cs : List Char) : Reader Unit :=
  modify fun s => { s with rest := cs }

def flags : Reader Flags := return (← get).flags

def setFlags (flags : Flags) : Reader Unit :=
  modify fun s => { s with flags }

-- What follows blanks and comments; a comment ends with its line.
def afterBlanks (comment : Bool) : List Char → List Char
  | [] => []
  | c :: cs =>
    if comment then afterBlanks (c != '\n') cs
    else if Text.isBlank c then afterBlanks false cs
    else if c = '#' then afterBlanks true cs
    else c :: cs

def skipBlanks : Reader Unit := do
  if (← flags).spaced then moveTo (afterBlanks false (← rest))

def skip? (c : Char) : Reader Bool := do
  match ← rest with
  | first :: after => if first = c then moveTo after; return true else return false
  | [] => return false

def expect (c : Char) : Reader Unit := do
  if ← skip? c then return else failure

-- Up to `limit` characters of a kind, and the blanks around them.
def spaced (kind : Char → Bool) (limit : Nat) : Reader (List Char) := do
  skipBlanks
  match limit, ← rest with
  | limit + 1, c :: after =>
    if kind c then
      moveTo after
      return c :: (← spaced kind limit)
    else return []
  | _, _ => return []

def allSpaced (kind : Char → Bool) : Reader (List Char) := do
  spaced kind (← rest).length

end Reader

inductive Escape where
  | char (c : Char)
  -- A place between characters.
  | place (acceptsEmpty : Bool)

namespace Escape

open Reader

def controls : List (Char × Char) :=
  [('a', '\x07'), ('f', '\x0c'), ('t', '\t'), ('n', '\n'), ('r', '\r'), ('v', '\x0b')]

-- The digits of a code point: in braces, or as many as the letter before them asks for.
def codeLength? : Char → Option Nat
  | 'x' => some 2
  | 'u' => some 4
  | 'U' => some 8
  | _ => none

def charOfCode? (digits : List Char) : Option Char := do
  let code ← Numeric.digits? 16 digits
  if code.isValidChar then some (Char.ofNat code) else none

def isAscii (c : Char) : Bool :=
  c.toNat < 128

def readCode (length : Nat) : Reader Char := do
  skipBlanks
  if ← skip? '{' then
    let digits ← allSpaced (Numeric.isDigit 16)
    expect '}'
    charOfCode? digits
  else
    let digits ← spaced (Numeric.isDigit 16) length
    let c ← charOfCode? digits
    -- Two digits stand for a byte where characters are bytes.
    let isByte := length = 2 && !(← flags).unicode
    if digits.length = length && (isAscii c || !isByte) then return c else failure

def isBoundaryLetter (c : Char) : Bool :=
  c.isAlpha || c == '-'

def boundaryAcceptsEmpty? (name : String) : Option Bool :=
  match name with
  | "start" | "end" => some false
  | "start-half" | "end-half" => some true
  | _ => none

-- A brace after a word boundary names its kind, unless it starts a count.
def readBoundary : Reader Bool := do
  let before ← get
  if ← skip? '{' then
    skipBlanks
    match ← rest with
    | [] => failure
    | c :: _ =>
      if isBoundaryLetter c then
        let name ← allSpaced isBoundaryLetter
        expect '}'
        boundaryAcceptsEmpty? (String.ofList name)
      else
        set before
        return false
  else return false

def read : Reader Escape := do
  match ← rest with
  | [] => failure
  | c :: after =>
    moveTo after
    if c = 'b' then return .place (← readBoundary)
    match codeLength? c, controls.lookup c with
    | some length, _ => return .char (← readCode length)
    | none, some control => return .char control
    | none, none =>
      if isAscii c && !c.isAlphanum && c != '<' && c != '>' then return .char c else failure

end Escape

end PeriodCompare.Regex
