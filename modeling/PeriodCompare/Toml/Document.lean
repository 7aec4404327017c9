import PeriodCompare.Toml.Scalar

set_option autoImplicit false

namespace PeriodCompare.Toml

def isBareKeyChar (c : Char) : Bool :=
  c.isAlphanum || c == '_' || c == '-'

def takeSimpleKey? : List Char → Option (String × List Char)
  | '\x22' :: rest =>
    (takeBasic? (rest.length + 1) rest).map fun (content, rest) => (String.ofList content, rest)
  | '\x27' :: rest =>
    (takeLiteral? rest).map fun (content, rest) => (String.ofList content, rest)
  | cs =>
    let key := cs.takeWhile isBareKeyChar
    if key.isEmpty then none else some (String.ofList key, cs.dropWhile isBareKeyChar)

def takeKeyParts? (fuel : Nat) (cs : List Char) : Option ((List String × String) × List Char) :=
  match fuel with
  | 0 => none
  | fuel + 1 => do
    let (key, rest) ← takeSimpleKey? cs
    match rest.dropWhile isSpace with
    | '.' :: more => do
      let ((path, last), rest) ← takeKeyParts? fuel (more.dropWhile isSpace)
      return ((key :: path, last), rest)
    | _ => some (([], key), rest)

-- How many values may stand inside one another, and the most parts of a key.
def maxDepth : Nat := 79

def takeKey? (cs : List Char) : Option ((List String × String) × List Char) := do
  let ((path, last), rest) ← takeKeyParts? cs.length cs
  if path.length < maxDepth then some ((path, last), rest) else none

def takeComment? : List Char → Option (List Char)
  | '#' :: rest => some (rest.dropWhile isTextChar)
  | cs => some cs

def takeLineEnd? (cs : List Char) : Option (List Char) := do
  match ← takeComment? (cs.dropWhile isSpace) with
  | [] => some []
  | rest => takeNewline? rest

def skipLayout (fuel : Nat) (cs : List Char) : List Char :=
  match fuel with
  | 0 => cs
  | fuel + 1 =>
    match cs.dropWhile isSpace with
    | '#' :: rest =>
      match takeNewline? (rest.dropWhile isTextChar) with
      | some rest => skipLayout fuel rest
      | none => '#' :: rest
    | rest =>
      match takeNewline? rest with
      | some rest => skipLayout fuel rest
      | none => rest

mutual

-- At most `depth` brackets and braces are open at a time.
def takeValue? (fuel depth : Nat) (cs : List Char) : Option (Value × List Char) :=
  match fuel, depth, cs with
  | 0, _, _ => none
  | _, 0, '[' :: _ => none
  | _, 0, '{' :: _ => none
  | fuel + 1, depth + 1, '[' :: rest => do
    let (items, rest) ← takeItems? fuel depth (skipLayout rest.length rest)
    return (.array items, rest)
  | fuel + 1, depth + 1, '{' :: rest =>
    match rest.dropWhile isSpace with
    | '}' :: rest => some (.table .inline [], rest)
    | rest => do
      let (entries, rest) ← takeMembers? fuel depth [] rest
      return (.table .inline entries, rest)
  | _, _, 't' :: 'r' :: 'u' :: 'e' :: rest => some (.boolean, rest)
  | _, _, 'f' :: 'a' :: 'l' :: 's' :: 'e' :: rest => some (.boolean, rest)
  | _, _, cs =>
    match takeString? cs with
    | some (content, rest) => some (.string content, rest)
    | none => takeNumber? cs

-- Items up to the closing bracket; a comma may follow the last.
def takeItems? (fuel depth : Nat) (cs : List Char) : Option (List Value × List Char) :=
  match fuel, cs with
  | 0, _ => none
  | _, ']' :: rest => some ([], rest)
  | fuel + 1, cs => do
    let (item, rest) ← takeValue? fuel depth cs
    match skipLayout rest.length rest with
    | ',' :: rest => do
      let (items, rest) ← takeItems? fuel depth (skipLayout rest.length rest)
      return (item :: items, rest)
    | ']' :: rest => some ([item], rest)
    | _ => none

-- Keys and values up to the closing brace; no comma may follow the last.
def takeMembers? (fuel depth : Nat) (entries : Entries) (cs : List Char) :
    Option (Entries × List Char) :=
  match fuel with
  | 0 => none
  | fuel + 1 => do
    let ((path, key), rest) ← takeKey? cs
    let rest ← takeMark? '=' (rest.dropWhile isSpace)
    let (value, rest) ← takeValue? fuel depth (rest.dropWhile isSpace)
    let entries ← entries.add? path key value
    match rest.dropWhile isSpace with
    | ',' :: rest => takeMembers? fuel depth entries (rest.dropWhile isSpace)
    | '}' :: rest => some (entries, rest)
    | _ => none

end

structure Reading where
  root : Entries
  opened : List String

def takeHeader? (cs : List Char) : Option ((List String × String) × List Char) := do
  let (key, rest) ← takeKey? (cs.dropWhile isSpace)
  return (key, rest.dropWhile isSpace)

def takeLine? (r : Reading) : List Char → Option (Reading × List Char)
  | '#' :: rest => do return (r, ← takeLineEnd? ('#' :: rest))
  | '[' :: '[' :: rest => do
    let ((path, key), rest) ← takeHeader? rest
    let rest ← takeLineEnd? (← takeMark? ']' (← takeMark? ']' rest))
    return (⟨← r.root.openNext? path key, path ++ [key]⟩, rest)
  | '[' :: rest => do
    let ((path, key), rest) ← takeHeader? rest
    let rest ← takeLineEnd? (← takeMark? ']' rest)
    return (⟨← r.root.openTable? path key, path ++ [key]⟩, rest)
  | cs => do
    let ((path, key), rest) ← takeKey? cs
    let rest ← takeMark? '=' (rest.dropWhile isSpace)
    let (value, rest) ← takeValue? cs.length maxDepth (rest.dropWhile isSpace)
    let rest ← takeLineEnd? rest
    return ({ r with root := ← r.root.addUnder? r.opened path key value }, rest)

def takeLines? (fuel : Nat) (r : Reading) (cs : List Char) : Option Reading :=
  match fuel with
  | 0 => none
  | fuel + 1 =>
    match cs.dropWhile isSpace with
    | [] => some r
    | cs =>
      match takeNewline? cs with
      | some rest => takeLines? fuel r rest
      | none => do
        let (r, rest) ← takeLine? r cs
        takeLines? fuel r rest

-- A byte order mark at the start does not count.
def withoutMark : List Char → List Char
  | '\ufeff' :: rest => rest
  | cs => cs

def read? (source : String) : Option Entries :=
  let cs := withoutMark source.toList
  (takeLines? (cs.length + 1) ⟨[], []⟩ cs).map (·.root)

end PeriodCompare.Toml
