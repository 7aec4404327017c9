import PeriodCompare.Numeric.Decimal

set_option autoImplicit false

namespace PeriodCompare.Expr

inductive AggregateOp where
  | sum | avg | count | min | max | group | stddev | stdvar
  | topk | bottomk | countValues | quantile
  deriving DecidableEq

inductive Keyword where
  | and | or | unless | atan2
  | aggregate (op : AggregateOp)
  | offset | by | without | on | ignoring | groupLeft | groupRight | bool | start | end
  deriving DecidableEq

-- Keywords are recognised in any case.
def keywords : List (String × Keyword) :=
  [("and", .and), ("or", .or), ("unless", .unless), ("atan2", .atan2),
    ("sum", .aggregate .sum), ("avg", .aggregate .avg), ("count", .aggregate .count),
    ("min", .aggregate .min), ("max", .aggregate .max), ("group", .aggregate .group),
    ("stddev", .aggregate .stddev), ("stdvar", .aggregate .stdvar),
    ("topk", .aggregate .topk), ("bottomk", .aggregate .bottomk),
    ("count_values", .aggregate .countValues), ("quantile", .aggregate .quantile),
    ("offset", .offset), ("by", .by), ("without", .without), ("on", .on),
    ("ignoring", .ignoring), ("group_left", .groupLeft), ("group_right", .groupRight),
    ("bool", .bool), ("start", .start), ("end", .end)]

inductive Symbol where
  | plus | minus | times | divide | modulo | power
  | equal | notEqual | less | greater | lessEqual | greaterEqual
  | assign | matches | matchesNot
  | at | comma | colon
  | leftParen | rightParen | leftBrace | rightBrace | leftBracket | rightBracket
  deriving DecidableEq

inductive Token where
  | symbol (s : Symbol)
  | number (value : Float)
  | span (millis : Nat)
  | text (content : List Char)
  | keyword (k : Keyword) (spelling : String)
  | name (spelling : String)
  -- Only a metric can have a colon in its name.
  | metricName (spelling : String)

def isLetter (c : Char) : Bool :=
  c.isAlpha || c == '_'

def isWordChar (c : Char) : Bool :=
  isLetter c || c.isDigit

def isBlank (c : Char) : Bool :=
  c == ' ' || c == '\t' || c == '\n' || c == '\r' || c == '\x0c'

namespace Token

def ofWord (word : List Char) : Token :=
  let spelling := String.ofList word
  let folded := String.ofList (word.map Char.toLower)
  if folded = "inf" then .number (1.0 / 0.0)
  else if folded = "nan" then .number (0.0 / 0.0)
  else
    match keywords.find? (·.1 = folded) with
    | some (_, k) => .keyword k spelling
    | none => if word.contains ':' then .metricName spelling else .name spelling

end Token

def maxInteger : Nat := 0x7fffffffffffffff

def integer? (base : Nat) (digits : List Char) : Option Float := do
  let n ← Numeric.digits? base digits
  if n ≤ maxInteger then some (Float.ofScientific n false 0) else none

-- A leading zero makes a number octal, unless a point or the digits 8 or 9 show otherwise.
def isOctal (word : List Char) : Bool :=
  word.head? = some '0' && 1 < word.length && !word.any fun c => c == '.' || c == '8' || c == '9'

def decimalValue? (word : List Char) (d : Numeric.Decimal) : Option Float :=
  if isOctal word then integer? 8 word else d.value?

-- The unit at the start: its place among the units, its milliseconds and the rest.
def takeUnit? : List Char → Option (Nat × Nat × List Char)
  | 'y' :: rest => some (0, 31536000000, rest)
  | 'w' :: rest => some (1, 604800000, rest)
  | 'd' :: rest => some (2, 86400000, rest)
  | 'h' :: rest => some (3, 3600000, rest)
  | 'm' :: 's' :: rest => some (6, 1, rest)
  | 'm' :: rest => some (4, 60000, rest)
  | 's' :: rest => some (5, 1000, rest)
  | _ => none

-- Parts of a length of time whose units come no earlier than `place`, added to `total`. A count
-- beyond 32 bits adds nothing.
def takeSpanFrom (fuel place total : Nat) (cs : List Char) : Option (Nat × List Char) :=
  match fuel with
  | 0 => none
  | fuel + 1 =>
    let digits := cs.takeWhile (Numeric.isDigit 10)
    match Numeric.digits? 10 digits with
    | none => some (total, cs)
    | some count => do
      let (unit, millis, rest) ← takeUnit? (cs.dropWhile (Numeric.isDigit 10))
      if unit < place then none
      else takeSpanFrom fuel (unit + 1) (total + if count < 0x100000000 then count * millis else 0) rest

-- A length of time ends where no letter or digit follows, and is not zero.
def takeSpan? (cs : List Char) : Option (Token × List Char) := do
  let (total, rest) ← takeSpanFrom (cs.length + 1) 0 0 cs
  if total = 0 || rest.head?.any isWordChar then none else some (.span total, rest)

def takeHex? (digits : List Char) : Option (Token × List Char) := do
  let rest := digits.dropWhile (Numeric.isDigit 16)
  if rest.head?.any fun c => isLetter c || c == '.' then none
  else return (.number (← integer? 16 (digits.takeWhile (Numeric.isDigit 16))), rest)

def takeNumberOrSpan? (cs : List Char) : Option (Token × List Char) :=
  let (d, rest) := Numeric.Decimal.take cs
  if rest.head?.any fun c => isLetter c || c == '.' then takeSpan? cs
  else do return (.number (← decimalValue? (cs.take (cs.length - rest.length)) d), rest)

def takeNumeral? : List Char → Option (Token × List Char)
  | '0' :: 'x' :: rest => takeHex? rest
  | '0' :: 'X' :: rest => takeHex? rest
  | cs => takeNumberOrSpan? cs

def doubleQuote : Char := '\x22'
def singleQuote : Char := '\x27'
def backQuote : Char := '\x60'

def isQuote (c : Char) : Bool :=
  c == doubleQuote || c == singleQuote || c == backQuote

def isEscapable (quote c : Char) : Bool :=
  c == quote || "abfnrtv\\01234567xuU".toList.contains c

-- What stands between two quotes, escapes as they are written.
def takeText? (quote : Char) : List Char → Option (List Char × List Char)
  | [] => none
  | '\\' :: c :: rest =>
    if isEscapable quote c then do
      let (content, rest) ← takeText? quote rest
      return ('\\' :: c :: content, rest)
    else none
  | c :: rest =>
    if c = quote then some ([], rest)
    else if c = '\\' then none
    else do
      let (content, rest) ← takeText? quote rest
      return (c :: content, rest)

-- Where a word stands decides which words are possible.
inductive Place where
  | plain
  | braces
  | brackets (colon : Bool)
  deriving DecidableEq

def symbol1 (s : Symbol) (rest : List Char) : Option (Option Token × Place × List Char) :=
  some (some (.symbol s), .plain, rest)

def takePlain? : List Char → Option (Option Token × Place × List Char)
  | '+' :: rest => symbol1 .plus rest
  | '-' :: rest => symbol1 .minus rest
  | '*' :: rest => symbol1 .times rest
  | '/' :: rest => symbol1 .divide rest
  | '%' :: rest => symbol1 .modulo rest
  | '^' :: rest => symbol1 .power rest
  | '@' :: rest => symbol1 .at rest
  | ',' :: rest => symbol1 .comma rest
  | '(' :: rest => symbol1 .leftParen rest
  | ')' :: rest => symbol1 .rightParen rest
  | '=' :: '=' :: rest => symbol1 .equal rest
  | '!' :: '=' :: rest => symbol1 .notEqual rest
  | '<' :: '=' :: rest => symbol1 .lessEqual rest
  | '<' :: rest => symbol1 .less rest
  | '>' :: '=' :: rest => symbol1 .greaterEqual rest
  | '>' :: rest => symbol1 .greater rest
  | '{' :: rest => some (some (.symbol .leftBrace), .braces, rest)
  | '[' :: rest => some (some (.symbol .leftBracket), .brackets false, rest)
  | c :: rest =>
    if isBlank c then some (none, .plain, rest)
    else if isQuote c then do
      let (content, rest) ← takeText? c rest
      return (some (.text content), .plain, rest)
    else if isLetter c || c == ':' then
      let isNameChar := fun c => isWordChar c || c == ':'
      some (some (.ofWord (c :: rest.takeWhile isNameChar)), .plain, rest.dropWhile isNameChar)
    else if c.isDigit || (c == '.' && rest.head?.any Char.isDigit) then do
      let (token, rest) ← takeNumeral? (c :: rest)
      return (some token, .plain, rest)
    else none
  | [] => none

-- In braces every word is a label, except an `or` that a space follows.
def labelToken (word rest : List Char) : Token :=
  if word.map Char.toLower = ['o', 'r'] && rest.head? = some ' ' then
    .keyword .or (String.ofList word)
  else .name (String.ofList word)

def takeInBraces? : List Char → Option (Option Token × Place × List Char)
  | ',' :: rest => some (some (.symbol .comma), .braces, rest)
  | '=' :: '~' :: rest => some (some (.symbol .matches), .braces, rest)
  | '=' :: rest => some (some (.symbol .assign), .braces, rest)
  | '!' :: '~' :: rest => some (some (.symbol .matchesNot), .braces, rest)
  | '!' :: '=' :: rest => some (some (.symbol .notEqual), .braces, rest)
  | '}' :: rest => some (some (.symbol .rightBrace), .plain, rest)
  | c :: rest =>
    if isBlank c then some (none, .braces, rest)
    else if isQuote c then do
      let (content, rest) ← takeText? c rest
      return (some (.text content), .braces, rest)
    else if isLetter c then
      let after := rest.dropWhile isWordChar
      some (some (labelToken (c :: rest.takeWhile isWordChar) after), .braces, after)
    else none
  | [] => none

def takeInBrackets? (colon : Bool) : List Char → Option (Option Token × Place × List Char)
  | ':' :: rest => if colon then none else some (some (.symbol .colon), .brackets true, rest)
  | ']' :: rest => some (some (.symbol .rightBracket), .plain, rest)
  | c :: rest =>
    if isBlank c then some (none, .brackets colon, rest)
    else if c.isDigit then do
      let (token, rest) ← takeNumeral? (c :: rest)
      return (some token, .brackets colon, rest)
    else none
  | [] => none

def isLineEnd (c : Char) : Bool :=
  c == '\n' || c == '\r'

-- A comment reaches to the end of its line.
def takeToken? (place : Place) (cs : List Char) : Option (Option Token × Place × List Char) :=
  match place, cs with
  | .brackets colon, cs => takeInBrackets? colon cs
  | place, '#' :: rest => some (none, place, rest.dropWhile (!isLineEnd ·))
  | .plain, cs => takePlain? cs
  | .braces, cs => takeInBraces? cs

def tokensFrom? (fuel : Nat) (place : Place) (cs : List Char) : Option (List Token) :=
  match fuel, cs with
  | _, [] => if place = .plain then some [] else none
  | 0, _ => none
  | fuel + 1, cs => do
    let (token, place, rest) ← takeToken? place cs
    let tokens ← tokensFrom? fuel place rest
    return match token with
      | some token => token :: tokens
      | none => tokens

def tokens? (cs : List Char) : Option (List Token) :=
  tokensFrom? cs.length .plain cs

end PeriodCompare.Expr
