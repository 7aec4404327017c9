set_option autoImplicit false

namespace PeriodCompare.Regex

structure Outline where
  acceptsEmpty : Bool
  -- It matches no text but the empty one.
  onlyEmpty : Bool
  -- The states that an automaton for it has, about.
  size : Nat
  depth : Nat
  deriving DecidableEq

namespace Outline

-- Larger expressions are refused.
def maxSize : Nat := 327680
def maxDepth : Nat := 250

def fits (o : Outline) : Bool :=
  o.size ≤ maxSize && o.depth ≤ maxDepth

-- A place between characters, such as the start of the text.
def place (acceptsEmpty : Bool) : Outline := ⟨acceptsEmpty, true, 1, 0⟩

def char (c : Char) : Outline := ⟨false, false, c.utf8Size, 0⟩

-- One character of a class. Beyond ASCII, an automaton reads it byte by byte.
def oneOf (wide : Bool) (depth : Nat) : Outline := ⟨false, false, if wide then 32 else 3, depth⟩

def deepest (parts : List Outline) : Nat :=
  parts.foldl (fun depth part => max depth part.depth) 0

def totalSize (parts : List Outline) : Nat :=
  parts.foldl (fun total part => total + part.size) 0

-- A change of flags is an item of a sequence that matches nothing.
def sequence (items : List (Option Outline)) : Outline :=
  let parts := items.filterMap id
  { acceptsEmpty := parts.all acceptsEmpty
    onlyEmpty := parts.all onlyEmpty
    size := totalSize parts
    depth := deepest parts + if 1 < items.length then 1 else 0 }

def choice : List Outline → Outline
  | [only] => only
  | branches =>
    { acceptsEmpty := branches.any acceptsEmpty
      onlyEmpty := branches.all onlyEmpty
      size := totalSize branches + 2
      depth := deepest branches + 1 }

def group (captures : Bool) (o : Outline) : Outline :=
  { o with size := o.size + if captures then 2 else 0, depth := o.depth + 1 }

-- More than one copy of what matches only the empty text is not kept.
def clamped (o : Outline) (least : Nat) (most : Option Nat) : Nat × Option Nat :=
  if o.onlyEmpty then (min least 1, some (min (most.getD 1) 1)) else (least, most)

def repeated (least : Nat) (most : Option Nat) (o : Outline) : Outline :=
  let (least, most) := o.clamped least most
  let copies := most.getD (max least 1)
  { acceptsEmpty := o.acceptsEmpty || least == 0
    onlyEmpty := o.onlyEmpty || most == some 0
    size := copies * o.size + (copies - least) + 1
    depth := o.depth + 1 }

end Outline

end PeriodCompare.Regex
