import PeriodCompare.Regex.Source

set_option autoImplicit false

namespace PeriodCompare.Regex

inductive SetOp where
  | intersection | difference | symmetricDifference
  deriving DecidableEq

structure CharSet where
  -- It has members beyond ASCII.
  wide : Bool
  depth : Nat
  deriving DecidableEq

namespace CharSet

def upTo (last : Char) : CharSet := ⟨!Escape.isAscii last, 0⟩

-- A named set is one of ASCII, or all that one lacks.
def named (negated : Bool) : CharSet := ⟨negated, 0⟩

def deepest (sets : List CharSet) : Nat :=
  sets.foldl (fun depth set => max depth set.depth) 0

def union (members : List CharSet) : CharSet :=
  ⟨members.any wide, deepest members + if 1 < members.length then 1 else 0⟩

-- Beyond ASCII, a set of bytes has all members or none.
def combine (op : SetOp) (left right : CharSet) : CharSet :=
  let wide :=
    match op with
    | .intersection => left.wide && right.wide
    | .difference => left.wide && !right.wide
    | .symmetricDifference => left.wide != right.wide
  ⟨wide, max left.depth right.depth + 1⟩

def bracketed (unicode negated : Bool) (inner : CharSet) : CharSet :=
  let wide := if unicode then inner.wide || negated else inner.wide != negated
  ⟨wide, inner.depth + 1⟩

def names : List String :=
  ["alnum", "alpha", "ascii", "blank", "cntrl", "digit", "graph", "lower", "print", "punct",
    "space", "upper", "word", "xdigit"]

-- A named set whose opening bracket has been read, such as the rest of `[:alpha:]`.
def takeNamed? : List Char → Option (CharSet × List Char)
  | ':' :: cs =>
    let negated := cs.head? = some '^'
    let cs := if negated then cs.drop 1 else cs
    match cs.dropWhile (· != ':') with
    | ':' :: ']' :: after =>
      if names.contains (String.ofList (cs.takeWhile (· != ':'))) then some (named negated, after)
      else none
    | _ => none
  | _ => none

open Reader

def readChar : Reader Char := do
  match ← rest with
  | [] => failure
  | first :: after =>
    moveTo after
    let c ← if first = '\\' then do
        match ← Escape.read with
        | .char c => pure c
        | .place _ => failure
      else pure first
    if Escape.isAscii c || (← flags).unicode then return c else failure

-- The next character that counts after a minus. Of a comment only the mark is skipped here.
def peekBlanks (cs : List Char) : Option Char :=
  let next :=
    match cs.dropWhile Text.isBlank with
    | '#' :: comment => comment.dropWhile Text.isBlank
    | next => next
  (next.head?).or cs.head?

-- A minus stands for itself before a closing bracket, and two of them are an operator.
def isRange (spaced : Bool) (after : List Char) : Bool :=
  let next := if spaced then peekBlanks after else after.head?
  next != some ']' && next != some '-'

def readMember : Reader CharSet := do
  let first ← readChar
  skipBlanks
  match ← rest with
  | '-' :: after =>
    if isRange (← flags).spaced after then
      moveTo after
      skipBlanks
      let last ← readChar
      if first ≤ last then return upTo last else failure
    else return upTo first
  | _ => return upTo first

def finish (left : Option (SetOp × CharSet)) (members : List CharSet) : CharSet :=
  match left with
  | some (op, left) => combine op left (union members)
  | none => union members

mutual

def read (fuel : Nat) : Reader CharSet :=
  match fuel with
  | 0 => failure
  | fuel + 1 => do
    skipBlanks
    let negated ← skip? '^'
    let minuses := (← allSpaced (· == '-')).map upTo
    -- No set is empty: a closing bracket in front is a member.
    let members ←
      if minuses.isEmpty then
        if ← skip? ']' then pure [upTo ']'] else pure []
      else pure minuses
    let unicode := (← flags).unicode
    let set := bracketed unicode negated (← readMembers fuel none members)
    if unicode || !set.wide then return set else failure

def readMembers (fuel : Nat) (left : Option (SetOp × CharSet)) (members : List CharSet) :
    Reader CharSet :=
  match fuel with
  | 0 => failure
  | fuel + 1 => do
    skipBlanks
    match ← rest with
    | [] => failure
    | ']' :: after =>
      moveTo after
      return finish left members
    | '&' :: '&' :: after =>
      moveTo after
      readMembers fuel (some (.intersection, finish left members)) []
    | '-' :: '-' :: after =>
      moveTo after
      readMembers fuel (some (.difference, finish left members)) []
    | '~' :: '~' :: after =>
      moveTo after
      readMembers fuel (some (.symmetricDifference, finish left members)) []
    | '[' :: after =>
      match takeNamed? after with
      | some (set, after) =>
        moveTo after
        readMembers fuel left (set :: members)
      | none =>
        moveTo after
        let set ← read fuel
        readMembers fuel left (set :: members)
    | _ =>
      let member ← readMember
      readMembers fuel left (member :: members)

end

end CharSet

end PeriodCompare.Regex
