import PeriodCompare.Settings
import PeriodCompare.Dispatch.Batch
import PeriodCompare.Json.Model
import PeriodCompare.Script
import PeriodCompare.Service
import PeriodCompare.Session
import PeriodCompare.Store
import PeriodCompare.Proofs.Index
import PeriodCompare.Proofs.Checked
import PeriodCompare.Proofs.Buckets
import PeriodCompare.Proofs.Plan
import PeriodCompare.Proofs.Cell
import PeriodCompare.Proofs.Derivation
import PeriodCompare.Proofs.Joined
import PeriodCompare.Proofs.Run
import PeriodCompare.Proofs.Comparison
import PeriodCompare.Proofs.Keys
import PeriodCompare.Proofs.Ranking
import PeriodCompare.Proofs.StoreComparison
import PeriodCompare.Proofs.Scope
import PeriodCompare.Proofs.Cache
import PeriodCompare.Proofs.Handles
import PeriodCompare.Proofs.History
import PeriodCompare.Proofs.WarmCache
import PeriodCompare.Proofs.Prompt
import PeriodCompare.Proofs.Transparency
import PeriodCompare.Proofs.Assembly
import PeriodCompare.Proofs.Parts
import PeriodCompare.Proofs.InTurn
import PeriodCompare.Proofs.Together
import PeriodCompare.Proofs.Refusal
import PeriodCompare.Proofs.Agreement
import PeriodCompare.Proofs.Partition
import PeriodCompare.Proofs.Exchange
import PeriodCompare.Proofs.Drilldown
import PeriodCompare.Proofs.Expression
import PeriodCompare.Proofs.Parsed
import PeriodCompare.Proofs.Words
import PeriodCompare.Proofs.Addition
import PeriodCompare.Proofs.Columns
import PeriodCompare.Proofs.Groups
import PeriodCompare.Proofs.Modifiers
import PeriodCompare.Proofs.Waits
import PeriodCompare.Proofs.SystemClock
import PeriodCompare.Proofs.DurationText
import PeriodCompare.Proofs.Document
import PeriodCompare.Proofs.Integers
import PeriodCompare.Proofs.Settings
