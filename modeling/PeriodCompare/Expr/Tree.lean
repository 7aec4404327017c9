import PeriodCompare.Expr.Token

set_option autoImplicit false

namespace PeriodCompare.Expr

inductive BinaryOp where
  | add | sub | mul | div | mod | pow | atan2
  | eq | ne | lt | gt | le | ge
  | and | or | unless
  deriving DecidableEq

namespace BinaryOp

def isComparison : BinaryOp → Bool
  | .eq | .ne | .lt | .gt | .le | .ge => true
  | _ => false

def isSet : BinaryOp → Bool
  | .and | .or | .unless => true
  | _ => false

end BinaryOp

inductive MatchOp where
  | equal | notEqual | matches | matchesNot
  deriving DecidableEq

structure Matcher where
  label : String
  op : MatchOp
  value : List Char
  deriving DecidableEq

inductive FixedTime where
  | seconds (value : Float)
  | start
  | finish

structure Shift where
  offset : Option Float
  fixed : Option FixedTime

def Shift.still : Shift := ⟨none, none⟩

structure Selector where
  name : Option String
  matchers : List Matcher
  shift : Shift

def Selector.named (name : String) : Selector := ⟨some name, [], .still⟩

inductive LabelChoice where
  | on (labels : List String)
  | ignoring (labels : List String)
  deriving DecidableEq

def LabelChoice.labels : LabelChoice → List String
  | .on labels => labels
  | .ignoring labels => labels

structure Pairing where
  returnBool : Bool
  choice : Option LabelChoice
  group : Option (List String)
  deriving DecidableEq

def Pairing.plain : Pairing := ⟨false, none, none⟩

structure Grouping where
  without : Bool
  labels : List String
  deriving DecidableEq

inductive Kind where
  | scalar | vector | range | text
  deriving DecidableEq

structure Signature where
  required : List Kind
  -- What may follow, and whether it may follow more than once.
  further : Option (Kind × Bool)
  result : Kind
  deriving DecidableEq

namespace Signature

def exact (required : List Kind) (result : Kind) : Signature :=
  ⟨required, none, result⟩

def accepts (s : Signature) (kinds : List Kind) : Bool :=
  let more := kinds.drop s.required.length
  s.required.isPrefixOf kinds &&
    match s.further with
    | none => more.isEmpty
    | some (kind, repeats) => more.all (· == kind) && (repeats || more.length ≤ 1)

end Signature

def vectorFunctions : List String :=
  ["abs", "absent", "acos", "acosh", "asin", "asinh", "atan", "atanh", "ceil", "cos", "cosh", "deg",
    "exp", "floor", "histogram_count", "histogram_sum", "ln", "log10", "log2", "rad", "sgn", "sin",
    "sinh", "sort", "sort_desc", "sqrt", "tan", "tanh", "timestamp"]

def rangeFunctions : List String :=
  ["absent_over_time", "avg_over_time", "changes", "count_over_time", "delta", "deriv", "idelta",
    "increase", "irate", "last_over_time", "max_over_time", "min_over_time", "present_over_time",
    "rate", "resets", "stddev_over_time", "stdvar_over_time", "sum_over_time"]

-- Without an argument these speak of the time of evaluation.
def calendarFunctions : List String :=
  ["day_of_month", "day_of_week", "day_of_year", "days_in_month", "hour", "minute", "month", "year"]

def otherFunctions : List (String × Signature) :=
  [("clamp", .exact [.vector, .scalar, .scalar] .vector),
    ("clamp_max", .exact [.vector, .scalar] .vector),
    ("clamp_min", .exact [.vector, .scalar] .vector),
    ("histogram_fraction", .exact [.scalar, .scalar, .vector] .vector),
    ("histogram_quantile", .exact [.scalar, .vector] .vector),
    ("holt_winters", .exact [.range, .scalar, .scalar] .vector),
    ("label_join", ⟨[.vector, .text, .text], some (.text, true), .vector⟩),
    ("label_replace", .exact [.vector, .text, .text, .text, .text] .vector),
    ("pi", .exact [] .scalar),
    ("predict_linear", .exact [.range, .scalar] .vector),
    ("quantile_over_time", .exact [.scalar, .range] .vector),
    ("round", ⟨[.vector], some (.scalar, false), .vector⟩),
    ("scalar", .exact [.vector] .scalar),
    ("time", .exact [] .scalar),
    ("vector", .exact [.scalar] .vector)]

-- Functions are known by their exact names.
def signature? (name : String) : Option Signature :=
  if vectorFunctions.contains name then some (.exact [.vector] .vector)
  else if rangeFunctions.contains name then some (.exact [.range] .vector)
  else if calendarFunctions.contains name then some ⟨[], some (.vector, false), .vector⟩
  else (otherFunctions.find? (·.1 = name)).map (·.2)

def AggregateOp.signature : AggregateOp → Signature
  | .topk | .bottomk | .quantile => .exact [.scalar, .vector] .vector
  | .countValues => .exact [.text, .vector] .vector
  | _ => .exact [.vector] .vector

inductive Callee where
  | function (name : String) (signature : Signature)
  | aggregate (op : AggregateOp) (grouping : Option Grouping)
  deriving DecidableEq

def Callee.signature : Callee → Signature
  | .function _ signature => signature
  | .aggregate op _ => op.signature

inductive Tree where
  | number (value : Float)
  | text (content : List Char)
  | selector (s : Selector)
  -- Lengths of time are in seconds.
  | range (s : Selector) (span : Float) (shift : Shift)
  | subquery (inner : Tree) (span : Float) (step : Option Float) (shift : Shift)
  | paren (inner : Tree)
  | neg (inner : Tree)
  | binary (op : BinaryOp) (pairing : Pairing) (left right : Tree)
  | call (f : Callee) (arguments : List Tree)

namespace Tree

-- The derived principle splits the arguments of a call into a list of its own.
@[induction_eliminator]
theorem induct {motive : Tree → Prop} (number : ∀ value, motive (number value))
    (text : ∀ content, motive (text content)) (selector : ∀ s, motive (selector s))
    (range : ∀ s span shift, motive (range s span shift))
    (subquery : ∀ inner span step shift, motive inner → motive (subquery inner span step shift))
    (paren : ∀ inner, motive inner → motive (paren inner))
    (neg : ∀ inner, motive inner → motive (neg inner))
    (binary : ∀ op pairing left right, motive left → motive right →
      motive (binary op pairing left right))
    (call : ∀ f arguments, (∀ a ∈ arguments, motive a) → motive (call f arguments)) (t : Tree) :
    motive t :=
  @Tree.rec motive (fun arguments => ∀ a ∈ arguments, motive a) number text selector range subquery
    paren neg binary call (fun _ member => absurd member List.not_mem_nil)
    (fun _ _ first rest => List.forall_mem_cons.2 ⟨first, rest⟩) t

def kind : Tree → Kind
  | .number _ => .scalar
  | .text _ => .text
  | .selector _ => .vector
  | .range _ _ _ => .range
  | .subquery _ _ _ _ => .range
  | .paren inner => inner.kind
  | .neg inner => inner.kind
  | .binary _ _ left right =>
    if left.kind = .scalar ∧ right.kind = .scalar then .scalar else .vector
  | .call f _ => f.signature.result

mutual

def selectors : Tree → List Selector
  | .number _ | .text _ => []
  | .selector s => [s]
  | .range s _ _ => [s]
  | .subquery inner _ _ _ => inner.selectors
  | .paren inner => inner.selectors
  | .neg inner => inner.selectors
  | .binary _ _ left right => left.selectors ++ right.selectors
  | .call _ arguments => selectorsOfAll arguments

def selectorsOfAll : List Tree → List Selector
  | [] => []
  | t :: rest => t.selectors ++ selectorsOfAll rest

end

theorem selectorsOfAll_eq (arguments : List Tree) :
    selectorsOfAll arguments = arguments.flatMap selectors := by
  induction arguments with
  | nil => rfl
  | cons t rest ih => rw [selectorsOfAll, ih, List.flatMap_cons]

def negate? (inner : Tree) : Option Tree :=
  if inner.kind = .scalar ∨ inner.kind = .vector then some (.neg inner) else none

def pairingFits (op : BinaryOp) (pairing : Pairing) (left right : Kind) : Bool :=
  let isNumeric := fun (k : Kind) => k == .scalar || k == .vector
  let bothScalar := left == .scalar && right == .scalar
  let anyScalar := left == .scalar || right == .scalar
  let shared :=
    match pairing.choice, pairing.group with
    | some (.on labels), some group => labels.any group.contains
    | _, _ => false
  let labelled := pairing.choice.any fun choice => !choice.labels.isEmpty
  isNumeric left && isNumeric right
    && (!pairing.returnBool || op.isComparison)
    && !(op.isComparison && bothScalar && !pairing.returnBool)
    && !shared
    && !(op.isSet && (anyScalar || pairing.group.isSome))
    && !(labelled && anyScalar)

def binary? (op : BinaryOp) (pairing : Pairing) (left right : Tree) : Option Tree :=
  if pairingFits op pairing left.kind right.kind then some (.binary op pairing left right)
  else none

def call? (f : Callee) (arguments : List Tree) : Option Tree :=
  if f.signature.accepts (arguments.map kind) then some (.call f arguments) else none

end Tree

end PeriodCompare.Expr
