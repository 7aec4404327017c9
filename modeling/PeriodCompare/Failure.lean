import PeriodCompare.Time.Granularity

set_option autoImplicit false

namespace PeriodCompare

inductive RequestFault where
  | baselineNotSet
  | currentNotSet
  | unnamedGroupBy
  | zeroWidth (granularity : Granularity)
  | bucketCounts (baseline current : Nat)
  | noMetrics (collection : String)
  | noGroupBy
  | other (reason : String)
  deriving DecidableEq

def RequestFault.message : RequestFault → String
  | .baselineNotSet => "baseline window is not set"
  | .currentNotSet => "current window is not set"
  | .unnamedGroupBy => "group-by dimension names must not be empty"
  | .zeroWidth granularity => "granularity " ++ granularity.text ++ " has no width"
  | .bucketCounts baseline current =>
    "baseline window has " ++ toString baseline ++ " buckets but current window has " ++
      toString current
  | .noMetrics collection => "no metrics requested for collection '" ++ collection ++ "'"
  | .noGroupBy => "dimension breakdown requires at least one group-by dimension"
  | .other reason => reason

inductive ExpressionFault where
  | unreadable (expression : String)
  | unsupportedConstruct
  | unsupportedOperator
  | unnamedSelector
  | unknownMetric (name : String)
  | other (reason : String)
  deriving DecidableEq

def ExpressionFault.message : ExpressionFault → String
  | .unreadable expression => "failed to parse '" ++ expression ++ "'"
  | .unsupportedConstruct => "unsupported construct in metric expression"
  | .unsupportedOperator => "unsupported operator in metric expression"
  | .unnamedSelector => "selector without a metric name"
  | .unknownMetric name => "unknown metric '" ++ name ++ "'"
  | .other reason => reason

inductive BackendFault where
  | cancelled
  | panicked (cause : String)
  | noRow
  | other (reason : String)
  deriving DecidableEq

def BackendFault.message : BackendFault → String
  | .cancelled => "sub-query task was cancelled"
  | .panicked cause => "sub-query task panicked: " ++ cause
  | .noRow => "aggregation produced no row"
  | .other reason => reason

inductive SettingsFault where
  | unreadableFile (path cause : String)
  | malformed
  | other (reason : String)
  deriving DecidableEq

def SettingsFault.message : SettingsFault → String
  | .unreadableFile path cause => "failed to read " ++ path ++ ": " ++ cause
  | .malformed => "malformed settings"
  | .other reason => reason

inductive Failure where
  | invalidRange (start finish : Instant)
  | invalidRequest (fault : RequestFault)
  | backendTimeout (query : String) (timeout : Duration)
  | backend (fault : BackendFault)
  | expression (fault : ExpressionFault)
  | settings (fault : SettingsFault)
  deriving DecidableEq

def Failure.message : Failure → String
  | .invalidRange start finish =>
    "Invalid range: end " ++ finish.text ++ " is not after start " ++ start.text
  | .invalidRequest fault => "Invalid request: " ++ fault.message
  | .backendTimeout query timeout =>
    "Backend timeout: " ++ query ++ " did not complete within " ++ timeout.text
  | .backend fault => "Backend error: " ++ fault.message
  | .expression fault => "Expression error: " ++ fault.message
  | .settings fault => "Config error: " ++ fault.message

abbrev Checked := Except Failure

end PeriodCompare
