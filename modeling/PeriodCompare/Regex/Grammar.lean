import PeriodCompare.Regex.CharSet
import PeriodCompare.Regex.Outline
import PeriodCompare.Text.Character

set_option autoImplicit false

namespace PeriodCompare.Regex

open Reader

-- How a group opens. One without a body changes the flags of what follows it.
inductive Opening where
  | flags
  | body (captures : Bool)
  deriving DecidableEq

def isGroupName : List Char → Bool
  | [] => false
  | first :: others =>
    let isMark := fun (c : Char) => c == '_' || c == '.' || c == '[' || c == ']'
    (first == '_' || Text.isAlphabetic first) &&
      others.all fun c => isMark c || Text.isAlphabetic c || Text.isNumeric c

-- A name ends at the closing angle bracket and is used once.
def readGroupName : Reader Unit := do
  let cs ← rest
  let name := cs.takeWhile (· != '>')
  moveTo (cs.dropWhile (· != '>'))
  expect '>'
  if isGroupName name && !(← get).groupNames.contains name then
    modify fun s => { s with groupNames := name :: s.groupNames }
  else failure

def flagLetters : List Char := ['i', 'm', 's', 'U', 'u', 'R', 'x', '-']

def Flags.change (flags : Flags) (c : Char) (on : Bool) : Flags :=
  match c with
  | 'x' => { flags with spaced := on }
  | 'u' => { flags with unicode := on }
  | _ => flags

-- Each flag stands once; a minus turns off those after it, of which there must be one.
def readFlags (fuel : Nat) (seen : List Char) (flags : Flags) : Reader Opening := do
  match fuel, ← rest with
  | fuel + 1, c :: after =>
    moveTo after
    if c = ':' || c = ')' then
      if seen.head? = some '-' || (c = ')' && seen.isEmpty) then failure
      setFlags flags
      return if c = ':' then .body false else .flags
    else if flagLetters.contains c && !seen.contains c then
      readFlags fuel (c :: seen) (flags.change c (!seen.contains '-'))
    else failure
  | _, _ => failure

-- The group whose parenthesis has just been read; looking ahead or behind is not possible.
def readOpening : Reader Opening := do
  skipBlanks
  match ← rest with
  | '?' :: 'P' :: '<' :: after =>
    moveTo after
    readGroupName
    return .body true
  | '?' :: '<' :: after =>
    moveTo after
    readGroupName
    return .body true
  | '?' :: after =>
    moveTo after
    readFlags after.length [] (← flags)
  | _ => return .body true

def maxCount : Nat := 0xffffffff

def skipAround : Reader Unit := do
  moveTo ((← rest).dropWhile Text.isBlank)

def readCount : Reader Nat := do
  skipBlanks
  skipAround
  let count ← Numeric.digits? 10 (← allSpaced (Numeric.isDigit 10))
  skipAround
  if count ≤ maxCount then return count else failure

-- The counts whose opening brace has just been read.
def readCounts : Reader (Nat × Option Nat) := do
  let least ← readCount
  if ← skip? ',' then
    skipBlanks
    if ← skip? '}' then return (least, none)
    let most ← readCount
    expect '}'
    if least ≤ most then return (least, some most) else failure
  else
    expect '}'
    return (least, some least)

-- How often the item before is repeated. A question mark makes it prefer fewer copies.
def readRepeat? : Reader (Option (Nat × Option Nat)) := do
  if ← skip? '?' then
    discard (skip? '?')
    return some (0, some 1)
  else if ← skip? '*' then
    discard (skip? '?')
    return some (0, none)
  else if ← skip? '+' then
    discard (skip? '?')
    return some (1, none)
  else if ← skip? '{' then
    let counts ← readCounts
    skipBlanks
    discard (skip? '?')
    return some counts
  else return none

def readSingle : Reader Outline := do
  match ← rest with
  | [] => failure
  | c :: after =>
    moveTo after
    match c with
    | '\\' =>
      match ← Escape.read with
      | .char c => return .char c
      | .place acceptsEmpty => return .place acceptsEmpty
    | '.' => if (← flags).unicode then return .oneOf true 0 else failure
    | '^' => return .place true
    | '$' => return .place true
    | c => return .char c

mutual

def readChoice (fuel : Nat) (branches : List Outline) : Reader Outline :=
  match fuel with
  | 0 => failure
  | fuel + 1 => do
    let branch ← readSequence fuel []
    if ← skip? '|' then readChoice fuel (branch :: branches)
    else return .choice (branch :: branches)

-- The items read so far are those of `items`, of which the last stands first.
def readSequence (fuel : Nat) (items : List (Option Outline)) : Reader Outline :=
  match fuel with
  | 0 => failure
  | fuel + 1 => do
    skipBlanks
    match ← rest with
    | [] => return .sequence items
    | '|' :: _ => return .sequence items
    | ')' :: _ => return .sequence items
    | '(' :: after =>
      moveTo after
      let item ← readGroup fuel
      readSequence fuel (item :: items)
    | '[' :: after =>
      moveTo after
      let set ← CharSet.read fuel
      readSequence fuel (some (.oneOf set.wide set.depth) :: items)
    | _ =>
      match ← readRepeat?, items with
      | some (least, most), some last :: before =>
        readSequence fuel (some (last.repeated least most) :: before)
      | some _, _ => failure
      | none, items =>
        let item ← readSingle
        readSequence fuel (some item :: items)

def readGroup (fuel : Nat) : Reader (Option Outline) :=
  match fuel with
  | 0 => failure
  | fuel + 1 => do
    let outer ← flags
    match ← readOpening with
    | .flags => return none
    | .body captures =>
      let body ← readChoice fuel []
      expect ')'
      setFlags outer
      return some (body.group captures)

end

def outline? (pattern : List Char) : Option Outline := do
  let (outline, source) ← (readChoice (3 * pattern.length + 3) []).run ⟨pattern, ⟨false, true⟩, []⟩
  if source.rest.isEmpty && outline.fits then some outline else none

-- Whether a brace starts a count, and how many characters after it tell.
def countAfterBrace (first comma : Bool) : List Char → Bool × Nat
  | [] => (false, 0)
  | c :: cs =>
    if c = '}' then (!first, 1)
    else if c.isDigit || (c = ',' && !first && !comma) then
      let (counts, read) := countAfterBrace false (comma || c = ',') cs
      (counts, read + 1)
    else (false, 1)

-- A brace that starts no count stands for itself.
def escapeBraces : List Char → List Char
  | [] => []
  | '\\' :: [] => []
  | '\\' :: c :: cs => '\\' :: c :: escapeBraces cs
  | '{' :: cs =>
    let (counts, read) := countAfterBrace true false cs
    (if counts then ['{'] else ['\\', '{']) ++ cs.take read ++ escapeBraces (cs.drop read)
  | c :: cs => c :: escapeBraces cs
termination_by cs => cs.length

def acceptsEmpty? (pattern : List Char) : Option Bool :=
  let whole := '^' :: pattern ++ ['$']
  ((outline? whole).or (outline? (escapeBraces whole))).map (·.acceptsEmpty)

end PeriodCompare.Regex
