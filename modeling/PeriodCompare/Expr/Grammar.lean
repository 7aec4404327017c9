import PeriodCompare.Expr.Tree
import PeriodCompare.Regex.Grammar

set_option autoImplicit false

namespace PeriodCompare.Expr

def BinaryOp.ofToken? : Token → Option BinaryOp
  | .symbol .plus => some .add
  | .symbol .minus => some .sub
  | .symbol .times => some .mul
  | .symbol .divide => some .div
  | .symbol .modulo => some .mod
  | .symbol .power => some .pow
  | .symbol .equal => some .eq
  | .symbol .notEqual => some .ne
  | .symbol .less => some .lt
  | .symbol .greater => some .gt
  | .symbol .lessEqual => some .le
  | .symbol .greaterEqual => some .ge
  | .keyword .and _ => some .and
  | .keyword .or _ => some .or
  | .keyword .unless _ => some .unless
  | .keyword .atan2 _ => some .atan2
  | _ => none

def BinaryOp.level : BinaryOp → Nat
  | .or => 1
  | .and | .unless => 2
  | .eq | .ne | .lt | .gt | .le | .ge => 3
  | .add | .sub => 4
  | .mul | .div | .mod | .atan2 => 5
  | .pow => 6

-- The least level on the right of an operator; powers nest to the right.
def BinaryOp.rightLevel : BinaryOp → Nat
  | .pow => 6
  | op => op.level + 1

def signLevel : Nat := 6

-- All keywords but those that only ever modify an operator can name a metric.
def Keyword.canBeMetric : Keyword → Bool
  | .on | .ignoring | .groupLeft | .groupRight | .bool | .atan2 => false
  | _ => true

def metricOf? : Token → Option String
  | .name spelling => some spelling
  | .metricName spelling => some spelling
  | .keyword k spelling => if k.canBeMetric then some spelling else none
  | _ => none

-- All keywords but one can be labels of a list.
def labelOf? : Token → Option String
  | .name spelling => some spelling
  | .keyword k spelling => if k = .without then none else some spelling
  | _ => none

-- Labels up to the closing parenthesis, with commas between them and maybe one at the end.
def takeLabelsRest? : List Token → Option (List String × List Token)
  | .symbol .rightParen :: rest => some ([], rest)
  | token :: .symbol .comma :: rest => do
    let label ← labelOf? token
    let (labels, rest) ← takeLabelsRest? rest
    return (label :: labels, rest)
  | token :: .symbol .rightParen :: rest => do return ([← labelOf? token], rest)
  | _ => none

def takeLabels? : List Token → Option (List String × List Token)
  | .symbol .leftParen :: rest => takeLabelsRest? rest
  | _ => none

def takeChoice? : List Token → Option (Option LabelChoice × List Token)
  | .keyword .on _ :: rest => do
    let (labels, rest) ← takeLabels? rest
    return (some (.on labels), rest)
  | .keyword .ignoring _ :: rest => do
    let (labels, rest) ← takeLabels? rest
    return (some (.ignoring labels), rest)
  | rest => some (none, rest)

-- The label list of a grouping may be left out.
def takeGroupLabels? : List Token → Option (List String × List Token)
  | .symbol .leftParen :: rest => takeLabelsRest? rest
  | rest => some ([], rest)

def takeGroup? (chosen : Bool) : List Token → Option (Option (List String) × List Token)
  | .keyword .groupLeft _ :: rest =>
    if chosen then (takeGroupLabels? rest).map fun (labels, rest) => (some labels, rest)
    else none
  | .keyword .groupRight _ :: rest =>
    if chosen then (takeGroupLabels? rest).map fun (labels, rest) => (some labels, rest)
    else none
  | rest => some (none, rest)

def takeBool : List Token → Bool × List Token
  | .keyword .bool _ :: rest => (true, rest)
  | rest => (false, rest)

def takePairing? (tokens : List Token) : Option (Pairing × List Token) := do
  let (returnBool, rest) := takeBool tokens
  let (choice, rest) ← takeChoice? rest
  let (group, rest) ← takeGroup? choice.isSome rest
  return (⟨returnBool, choice, group⟩, rest)

def takeGrouping? : List Token → Option (Option Grouping × List Token)
  | .keyword .by _ :: rest => do
    let (labels, rest) ← takeLabels? rest
    return (some ⟨false, labels⟩, rest)
  | .keyword .without _ :: rest => do
    let (labels, rest) ← takeLabels? rest
    return (some ⟨true, labels⟩, rest)
  | rest => some (none, rest)

def MatchOp.ofToken? : Token → Option MatchOp
  | .symbol .assign => some .equal
  | .symbol .notEqual => some .notEqual
  | .symbol .matches => some .matches
  | .symbol .matchesNot => some .matchesNot
  | _ => none

-- A matcher accepts the empty text when it lets an absent label through.
def Matcher.acceptsEmpty? (m : Matcher) : Option Bool :=
  match m.op with
  | .equal => some m.value.isEmpty
  | .notEqual => some (!m.value.isEmpty)
  | .matches => Regex.acceptsEmpty? m.value
  | .matchesNot => (Regex.acceptsEmpty? m.value).map (!·)

def takeMatchersRest? : List Token → Option (List Matcher × List Token)
  | .name label :: op :: .text value :: .symbol .rightBrace :: rest => do
    return ([⟨label, ← MatchOp.ofToken? op, value⟩], rest)
  | .name label :: op :: .text value :: .symbol .comma :: .symbol .rightBrace :: rest => do
    return ([⟨label, ← MatchOp.ofToken? op, value⟩], rest)
  | .name label :: op :: .text value :: .symbol .comma :: rest => do
    let matcher := ⟨label, ← MatchOp.ofToken? op, value⟩
    let (matchers, rest) ← takeMatchersRest? rest
    return (matcher :: matchers, rest)
  | .name label :: op :: .text value :: .keyword .or _ :: rest => do
    let matcher := ⟨label, ← MatchOp.ofToken? op, value⟩
    let (matchers, rest) ← takeMatchersRest? rest
    return (matcher :: matchers, rest)
  | _ => none

def takeMatchers? : List Token → Option (List Matcher × List Token)
  | .symbol .rightBrace :: rest => some ([], rest)
  | tokens => do
    let (matchers, rest) ← takeMatchersRest? tokens
    if matchers.all (·.acceptsEmpty?.isSome) then some (matchers, rest) else none

def nameLabel : String := "__name__"

def namedSelector? (name : String) (matchers : List Matcher) : Option Tree :=
  if matchers.any (·.label = nameLabel) then none
  else some (.selector ⟨some name, matchers, .still⟩)

-- Without a name, some matcher must turn the empty text away.
def unnamedSelector? (matchers : List Matcher) : Option Tree :=
  if matchers.any (·.acceptsEmpty? = some false) then some (.selector ⟨none, matchers, .still⟩)
  else none

def takeNamed? (name : String) : List Token → Option (Tree × List Token)
  | .symbol .leftBrace :: rest => do
    let (matchers, rest) ← takeMatchers? rest
    return (← namedSelector? name matchers, rest)
  | rest => do return (← namedSelector? name [], rest)

def spanSeconds (millis : Nat) : Float :=
  Float.ofScientific (millis / 1000) false 0 +
    Float.ofScientific (millis % 1000 * 1000000) false 0 / 1000000000.0

-- Only a selector, a range or a subquery can be moved in time.
def Tree.reshift? (change : Shift → Option Shift) : Tree → Option Tree
  | .selector s => do return .selector { s with shift := ← change s.shift }
  | .range s span shift => do return .range s span (← change shift)
  | .subquery inner span step shift => do return .subquery inner span step (← change shift)
  | _ => none

def Shift.withOffset? (seconds : Float) (s : Shift) : Option Shift :=
  if s.offset.isSome then none else some { s with offset := some seconds }

def Shift.withFixed? (time : FixedTime) (s : Shift) : Option Shift :=
  if s.fixed.isSome then none else some { s with fixed := some time }

-- A length of time in seconds, a whole part of 64 bits at most.
def length? : Token → Option Float
  | .number value => if value < 18446744073709551616.0 then some value else none
  | .span millis => some (spanSeconds millis)
  | _ => none

def takeOffset? : List Token → Option (Float × List Token)
  | .symbol .plus :: token :: rest => do return (← length? token, rest)
  | .symbol .minus :: token :: rest => do return (-(← length? token), rest)
  | token :: rest => do return (← length? token, rest)
  | [] => none

def greatest : Float := 1.7976931348623157e308

-- A point in time lies strictly between the ends of the range of numbers.
def seconds? : Token → Option Float
  | .number value => if value < greatest then some value else none
  | .span millis => some (spanSeconds millis)
  | _ => none

def takeFixed? : List Token → Option (FixedTime × List Token)
  | .symbol .plus :: token :: rest => do return (.seconds (← seconds? token), rest)
  | .symbol .minus :: token :: rest => do return (.seconds (-(← seconds? token)), rest)
  | .keyword .start _ :: .symbol .leftParen :: .symbol .rightParen :: rest => some (.start, rest)
  | .keyword .end _ :: .symbol .leftParen :: .symbol .rightParen :: rest => some (.finish, rest)
  | token :: rest => do return (.seconds (← seconds? token), rest)
  | [] => none

-- A range needs a selector that is not moved in time.
def range? (span : Float) : Tree → Option Tree
  | .selector s =>
    if s.shift.offset.isSome || s.shift.fixed.isSome then none else some (.range s span .still)
  | _ => none

def subquery? (span : Float) (step : Option Float) (inner : Tree) : Option Tree :=
  if inner.kind = .vector then some (.subquery inner span step .still) else none

def takeSuffixes? (fuel : Nat) (e : Tree) (tokens : List Token) : Option (Tree × List Token) :=
  match fuel, tokens with
  | fuel + 1, .keyword .offset _ :: rest => do
    let (seconds, rest) ← takeOffset? rest
    takeSuffixes? fuel (← e.reshift? (Shift.withOffset? seconds)) rest
  | fuel + 1, .symbol .at :: rest => do
    let (time, rest) ← takeFixed? rest
    takeSuffixes? fuel (← e.reshift? (Shift.withFixed? time)) rest
  | fuel + 1, .symbol .leftBracket :: span :: .symbol .rightBracket :: rest => do
    takeSuffixes? fuel (← range? (← length? span) e) rest
  | fuel + 1,
    .symbol .leftBracket :: span :: .symbol .colon :: .symbol .rightBracket :: rest => do
    takeSuffixes? fuel (← subquery? (← length? span) none e) rest
  | fuel + 1,
    .symbol .leftBracket :: span :: .symbol .colon :: step :: .symbol .rightBracket :: rest => do
    takeSuffixes? fuel (← subquery? (← length? span) (some (← length? step)) e) rest
  | _, tokens => some (e, tokens)

mutual

/-- An expression whose operators all bind at `level` or tighter. -/
def takeExpr? (fuel level : Nat) (tokens : List Token) : Option (Tree × List Token) :=
  match fuel with
  | 0 => none
  | fuel + 1 => do
    let (left, rest) ← takeOperand? fuel tokens
    takeOperators? fuel level left rest

def takeOperators? (fuel level : Nat) (left : Tree) (tokens : List Token) :
    Option (Tree × List Token) :=
  match fuel, tokens with
  | 0, _ => none
  | _, [] => some (left, [])
  | fuel + 1, token :: rest =>
    match (BinaryOp.ofToken? token).filter (level ≤ ·.level) with
    | none => some (left, token :: rest)
    | some op => do
      let (pairing, rest) ← takePairing? rest
      let (right, rest) ← takeExpr? fuel op.rightLevel rest
      takeOperators? fuel level (← Tree.binary? op pairing left right) rest

def takeOperand? (fuel : Nat) (tokens : List Token) : Option (Tree × List Token) :=
  match fuel, tokens with
  | 0, _ => none
  | _, [] => none
  | fuel + 1, .symbol .plus :: rest => takeExpr? fuel signLevel rest
  | fuel + 1, .symbol .minus :: rest => do
    let (inner, rest) ← takeExpr? fuel signLevel rest
    return (← inner.negate?, rest)
  | fuel + 1, tokens => do
    let (e, rest) ← takePrimary? fuel tokens
    takeSuffixes? rest.length e rest

def takePrimary? (fuel : Nat) (tokens : List Token) : Option (Tree × List Token) :=
  match fuel, tokens with
  | 0, _ => none
  | _, [] => none
  | _, .number value :: rest => some (.number value, rest)
  | _, .span millis :: rest => some (.number (spanSeconds millis), rest)
  | _, .text content :: rest => some (.text content, rest)
  | _, .symbol .leftBrace :: rest => do
    let (matchers, rest) ← takeMatchers? rest
    return (← unnamedSelector? matchers, rest)
  | fuel + 1, .symbol .leftParen :: rest => do
    let (inner, rest) ← takeExpr? fuel 1 rest
    match rest with
    | .symbol .rightParen :: rest => some (.paren inner, rest)
    | _ => none
  | fuel + 1, .keyword (.aggregate op) _ :: .symbol .leftParen :: rest => do
    let (arguments, rest) ← takeArguments? fuel rest
    let (grouping, rest) ← takeGrouping? rest
    return (← Tree.call? (.aggregate op grouping) arguments, rest)
  | fuel + 1, .keyword (.aggregate op) spelling :: rest => do
    let (grouping, after) ← takeGrouping? rest
    match grouping, after with
    | none, _ => takeNamed? spelling rest
    | some grouping, .symbol .leftParen :: rest => do
      let (arguments, rest) ← takeArguments? fuel rest
      return (← Tree.call? (.aggregate op (some grouping)) arguments, rest)
    | some _, _ => none
  | fuel + 1, .name name :: .symbol .leftParen :: rest => do
    let (arguments, rest) ← takeArguments? fuel rest
    return (← Tree.call? (.function name (← signature? name)) arguments, rest)
  | _, token :: rest => do takeNamed? (← metricOf? token) rest

def takeArguments? (fuel : Nat) (tokens : List Token) : Option (List Tree × List Token) :=
  match fuel, tokens with
  | 0, _ => none
  | _, .symbol .rightParen :: rest => some ([], rest)
  | fuel + 1, tokens => takeArgumentList? fuel tokens

def takeArgumentList? (fuel : Nat) (tokens : List Token) : Option (List Tree × List Token) :=
  match fuel with
  | 0 => none
  | fuel + 1 => do
    let (first, rest) ← takeExpr? fuel 1 tokens
    match rest with
    | .symbol .comma :: rest => do
      let (others, rest) ← takeArgumentList? fuel rest
      return (first :: others, rest)
    | .symbol .rightParen :: rest => some ([first], rest)
    | _ => none

end

def Tree.parse? (source : String) : Option Tree := do
  let tokens ← tokens? source.toList
  match ← takeExpr? (4 * tokens.length + 4) 1 tokens with
  | (e, []) => some e
  | _ => none

end PeriodCompare.Expr
