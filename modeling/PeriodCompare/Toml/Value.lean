set_option autoImplicit false

namespace PeriodCompare.Toml

inductive Form where
  -- Written in braces, and complete.
  | inline
  -- Named only on the way to a table below it.
  | implicit
  -- Named in a key with dots.
  | dotted
  -- Opened by a header of its own.
  | explicit
  deriving DecidableEq

inductive Value where
  | string (content : String)
  | integer (n : Int)
  | float
  | boolean
  | dateTime
  | array (items : List Value)
  | table (form : Form) (entries : List (String × Value))
  -- Tables that share a header; the last one is still open.
  | tables (items : List (List (String × Value)))

abbrev Entries := List (String × Value)

namespace Entries

def get? (entries : Entries) (key : String) : Option Value :=
  (entries.find? (·.1 = key)).map (·.2)

def set (entries : Entries) (key : String) (value : Value) : Entries :=
  entries.map fun (name, old) => if name = key then (name, value) else (name, old)

/-- Changes the table at the end of a path, and makes those on the way that do not exist. Values and
tables in braces cannot be entered, nor can a key with dots enter a table with a header. -/
def modify? (dotted : Bool) (change : Form → Entries → Option Entries) :
    Form → List String → Entries → Option Entries
  | form, [], entries => change form entries
  | _, key :: path, entries =>
    match get? entries key with
    | none => do
      let form := if dotted then .dotted else .implicit
      let below ← modify? dotted change form path []
      return entries ++ [(key, .table form below)]
    | some (.table .inline _) => none
    | some (.table form below) =>
      if dotted && form = .explicit then none
      else do
        let below ← modify? dotted change form path below
        return set entries key (.table form below)
    | some (.tables items) => do
      let last ← items.getLast?
      let last ← modify? dotted change .explicit path last
      return set entries key (.tables (items.dropLast ++ [last]))
    | some _ => none

def add? (entries : Entries) (path : List String) (key : String) (value : Value) :
    Option Entries :=
  modify? true (fun form below =>
    if decide (form = .dotted) == path.isEmpty then none
    else if (get? below key).isSome then none
    else some (below ++ [(key, value)])) .explicit path entries

-- Opens a table by its header, which may be done once.
def openTable? (entries : Entries) (path : List String) (key : String) : Option Entries :=
  modify? false (fun _ below =>
    match get? below key with
    | none => some (below ++ [(key, .table .explicit [])])
    | some (.table .implicit inner) => some (set below key (.table .explicit inner))
    | some _ => none) .explicit path entries

def openNext? (entries : Entries) (path : List String) (key : String) : Option Entries :=
  modify? false (fun _ below =>
    match get? below key with
    | none => some (below ++ [(key, .tables [[]])])
    | some (.tables items) => some (set below key (.tables (items ++ [[]])))
    | some _ => none) .explicit path entries

def addUnder? (entries : Entries) (opened path : List String) (key : String) (value : Value) :
    Option Entries :=
  modify? false (fun _ below => add? below path key value) .explicit opened entries

end Entries

end PeriodCompare.Toml
