import PeriodCompare.Toml.Document

set_option autoImplicit false

namespace PeriodCompare.Toml

inductive Scalar where
  | text (content : String)
  | count (n : Nat)
  deriving DecidableEq

def Scalar.value : Scalar → Value
  | .text content => .string content
  | .count n => .integer n

def Scalar.written : Scalar → String
  | .text content => "\x22" ++ content ++ "\x22"
  | .count n => toString n

inductive Line where
  | blank
  | header (key : String)
  | entry (key : String) (scalar : Scalar)
  deriving DecidableEq

def Line.written : Line → String
  | .blank => "\n"
  | .header key => "[" ++ key ++ "]\n"
  | .entry key scalar => key ++ " = " ++ scalar.written ++ "\n"

def document (lines : List Line) : String :=
  String.join (lines.map Line.written)

-- What the reader makes of a line after the lines before it.
def Line.addTo? (r : Reading) : Line → Option Reading
  | .blank => some r
  | .header key => do return ⟨← r.root.openTable? [] key, [key]⟩
  | .entry key scalar =>
    do return { r with root := ← r.root.addUnder? r.opened [] key scalar.value }

-- Characters that stand for themselves between quotes.
def isPlainChar (c : Char) : Bool :=
  isTextChar c && c != doubleQuote && c != '\\'

def IsCount (n : Nat) : Prop :=
  (n : Int) ≤ maxInteger

instance (n : Nat) : Decidable (IsCount n) :=
  inferInstanceAs (Decidable (_ ≤ _))

def Scalar.IsPlain : Scalar → Prop
  | .text content => ∀ c ∈ content.toList, isPlainChar c
  | .count n => IsCount n

def IsBareKey (key : String) : Prop :=
  key.toList ≠ [] ∧ ∀ c ∈ key.toList, isBareKeyChar c

def Line.IsPlain : Line → Prop
  | .blank => True
  | .header key => IsBareKey key
  | .entry key scalar => IsBareKey key ∧ scalar.IsPlain

end PeriodCompare.Toml
