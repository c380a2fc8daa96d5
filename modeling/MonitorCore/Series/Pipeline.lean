import MonitorCore.Series.Selection

/-!
# Selections in a row

A pipeline runs selections one after the other. Between two of them the pool of series is changed
by a rule that depends on what the last selection returned.
-/

namespace MonitorCore

namespace Pipeline

/-- How the pool changes after a selection. -/
inductive Next where
  /-- The pool is what was returned. -/
  | output
  /-- Every series that equals a returned one leaves the pool. -/
  | rest
  /-- What was returned is put behind the pool. -/
  | append
  /-- The pool is turned round. -/
  | reverse
  /-- The pool stays. -/
  | keep
  deriving DecidableEq, Repr

/-- The rule with the given name; any other name keeps the pool. -/
def Next.ofName (name : String) : Next :=
  if name = "output" then .output
  else if name = "rest" then .rest
  else if name = "append" then .append
  else if name = "reverse" then .reverse
  else .keep

def Next.apply (next : Next) (pool output : List DataSeries) : List DataSeries :=
  match next with
  | .output => output
  | .rest => pool.filter fun series ↦ !output.contains series
  | .append => pool ++ output
  | .reverse => pool.reverse
  | .keep => pool

/-- A selection and the rule that follows it. -/
structure Step where
  analyses : List Analysis
  next : Next

/-- The analyses that stand for a list of outputs: numbered from 0 and named after their number. -/
def analysesOf (outputs : List Id) : List Analysis :=
  outputs.zipIdx.map fun (output, n) ↦ ⟨UInt64.ofNat n, "a" ++ toString n, output⟩

/-- What a step returned, the number of its events, and the pool after it. -/
structure Stage where
  output : List DataSeries
  eventCount : Nat
  pool : List DataSeries

def Step.run (step : Step) (pool : List DataSeries) : Stage :=
  let output := Selection.select step.analyses pool
  ⟨output, (Selection.events step.analyses pool).length, step.next.apply pool output⟩

def run : List Step → List DataSeries → List Stage
  | [], _ => []
  | step :: steps, pool =>
    let stage := step.run pool
    stage :: run steps stage.pool

end Pipeline

end MonitorCore
