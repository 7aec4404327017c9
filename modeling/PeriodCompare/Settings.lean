import PeriodCompare.Failure
import PeriodCompare.Time.DurationText
import PeriodCompare.Toml.Line

set_option autoImplicit false

namespace PeriodCompare

structure CacheSettings where
  maxCapacity : Nat
  timeToLive : Duration
  deriving DecidableEq

structure Settings where
  queryTimeout : Duration
  topK : Nat
  cache : Option CacheSettings
  deriving DecidableEq

def CacheSettings.lines (c : CacheSettings) : List Toml.Line :=
  [.blank, .header "cache", .entry "max_capacity" (.count c.maxCapacity),
    .entry "time_to_live" (.text c.timeToLive.written)]

def Settings.lines (s : Settings) : List Toml.Line :=
  .entry "query_timeout" (.text s.queryTimeout.written) :: .entry "top_k" (.count s.topK) ::
    s.cache.elim [] CacheSettings.lines

def Settings.document (s : Settings) : String :=
  Toml.document s.lines

def CacheSettings.default : CacheSettings where
  maxCapacity := 10000
  timeToLive := .ofSecs 300

def Settings.default : Settings where
  queryTimeout := .ofSecs 60
  topK := 25
  cache := some .default

namespace Toml

def Value.duration? : Value → Option Duration
  | .string content => Duration.read? content
  | _ => none

-- Counts are not negative.
def Value.count? : Value → Option Nat
  | .integer n => if 0 ≤ n then some n.toNat else none
  | _ => none

-- A missing entry has its default, but a malformed one is an error.
def read {α : Type} (found : Option Value) (f : Value → Option α) (otherwise : α) : Checked α :=
  match found with
  | none => .ok otherwise
  | some value =>
    match f value with
    | some a => .ok a
    | none => .error (.settings .malformed)

end Toml

namespace CacheSettings

def ofParts (capacity life : Option Toml.Value) : Checked CacheSettings := do
  let maxCapacity ← Toml.read capacity Toml.Value.count? default.maxCapacity
  let timeToLive ← Toml.read life Toml.Value.duration? default.timeToLive
  return ⟨maxCapacity, timeToLive⟩

/-- A table by its keys, or an array by position. A date has none of the keys. -/
def ofValue : Toml.Value → Checked CacheSettings
  | .table _ entries =>
    ofParts (Toml.Entries.get? entries "max_capacity") (Toml.Entries.get? entries "time_to_live")
  | .array items => ofParts items[0]? items[1]?
  | .dateTime => .ok default
  | _ => .error (.settings .malformed)

end CacheSettings

namespace Settings

-- Unknown entries do not count.
def ofEntries (entries : Toml.Entries) : Checked Settings := do
  let queryTimeout ← Toml.read (entries.get? "query_timeout") Toml.Value.duration?
    default.queryTimeout
  let topK ← Toml.read (entries.get? "top_k") Toml.Value.count? default.topK
  let cache ← match entries.get? "cache" with
    | some value => some <$> CacheSettings.ofValue value
    | none => .ok default.cache
  return ⟨queryTimeout, topK, cache⟩

def ofDocument (source : String) : Checked Settings :=
  match Toml.read? source with
  | some entries => ofEntries entries
  | none => .error (.settings .malformed)

def missingFile : String := "No such file or directory (os error 2)"

def ofFile (path : String) (contents : Except String String) : Checked Settings :=
  match contents with
  | .ok source => ofDocument source
  | .error cause => .error (.settings (.unreadableFile path cause))

end Settings

end PeriodCompare
