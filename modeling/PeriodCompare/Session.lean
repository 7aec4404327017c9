import PeriodCompare.Dispatch.Batch
import PeriodCompare.Service

set_option autoImplicit false

namespace PeriodCompare

inductive Call where
  | comparison (r : Request)
  | totals (r : Request)
  | breakdown (r : Request)

inductive Reply where
  | comparison (c : Comparison)
  | row (row : Row)
  | rows (rows : List Row)

inductive Action where
  | wait (i : Nat) (timeout : Duration)
  | sleep (nanos : Nat)
  | drop (i : Nat)

inductive Step where
  | inTurn (timeout : Duration) (queries : List Query)
  | together (queries : List Query)
  | byHandle (queries : List Query) (actions : List Action)
  | call (c : Call)

namespace Batch

variable {σ : Type}

def act (backend : Backend σ) (b : Batch σ) : Action → Batch σ
  | .wait i timeout => (b.wait backend i timeout).2
  | .sleep nanos => b.sleep backend nanos
  | .drop i => b.drop i

def actAll (backend : Backend σ) (b : Batch σ) (actions : List Action) : Batch σ :=
  actions.foldl (act backend) b

end Batch

namespace Service

variable {σ : Type}

def answer (s : Service σ) (w : World σ) : Call → Checked Reply × World σ
  | .comparison r => (s.compare w r).map (·.map .comparison) id
  | .totals r => (s.compareTotals w r).map (·.map .row) id
  | .breakdown r => (s.breakdown w r).map (·.map .rows) id

-- Handles that are left at the end of a step are dropped there.
def perform (s : Service σ) (w : World σ) : Step → World σ
  | .inTurn timeout queries => (w.runInTurn s.backend timeout queries).2
  | .together queries => (w.runTogether s.backend s.timeout queries).2
  | .byHandle queries actions => ((Batch.submit w queries).actAll s.backend actions).world
  | .call c => (s.answer w c).2

def performAll (s : Service σ) (w : World σ) (steps : List Step) : World σ :=
  steps.foldl s.perform w

def answerAll (s : Service σ) (w : World σ) (calls : List Call) : World σ :=
  calls.foldl (fun w c => (s.answer w c).2) w

end Service

end PeriodCompare
