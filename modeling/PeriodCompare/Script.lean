import PeriodCompare.Dispatch.World

set_option autoImplicit false

namespace PeriodCompare

structure Rule where
  window : Option Window
  bucket : Option Nat
  groupBy : Option String
  -- How many more queries the rule serves; nothing when there is no limit.
  remaining : Option Nat
  course : Course

namespace Rule

def isMatch (r : Rule) (q : Query) : Bool :=
  r.window.all (· = q.window) && r.bucket.all (· == q.bucket) &&
    r.groupBy.all (fun dimension => q.groupBy = some dimension) && r.remaining.all (0 < ·)

def serve (r : Rule) : Rule :=
  { r with remaining := r.remaining.map (· - 1) }

end Rule

abbrev Script := List Rule

namespace Script

-- A query that no rule matches is answered at once, by nothing.
def silence : Course := ⟨some 0, .ok .empty⟩

def execute : Script → Query → Course × Script
  | [], _ => (silence, [])
  | rule :: rest, q =>
    if rule.isMatch q then (rule.course, rule.serve :: rest)
    else
      let (course, rest) := execute rest q
      (course, rule :: rest)

def backend : Backend Script := ⟨execute⟩

end Script

end PeriodCompare
