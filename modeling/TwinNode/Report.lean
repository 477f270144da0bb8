import TwinNode.Diagnostic.Order

namespace TwinNode

structure Report where
  /-- The root as the user named it. -/
  root : String
  diagnostics : List Diagnostic := []
  /-- How many things of each sort were seen. -/
  counters : List (String × Int) := []
  /-- Why the root could not be checked at all. -/
  invocationError : Option String := none
  deriving DecidableEq, Repr

/-- Adds to the counter of a name, which begins at zero. -/
def addCount (counters : List (String × Int)) (name : String) (n : Int) : List (String × Int) :=
  if counters.any (·.1 == name) then
    counters.map fun entry => if entry.1 == name then (name, entry.2 + n) else entry
  else counters ++ [(name, n)]

namespace Report

def errors (r : Report) : List Diagnostic := r.diagnostics.filter (·.severity = .error)

def warnings (r : Report) : List Diagnostic := r.diagnostics.filter (·.severity = .warning)

/-- Whether the root could be checked and has no error. -/
def passed (r : Report) : Bool :=
  r.invocationError.isNone && r.diagnostics.all (·.severity ≠ .error)

/-- 0 for a root that passed, 1 for one with errors, 2 for one that could not be checked. -/
def exitCode (r : Report) : Nat :=
  if r.invocationError.isSome then 2 else if r.passed then 0 else 1

def add (r : Report) (d : Diagnostic) : Report := { r with diagnostics := r.diagnostics ++ [d] }

def count (r : Report) (name : String) (n : Int) : Report :=
  { r with counters := addCount r.counters name n }

def sort (r : Report) : Except OrderError Report :=
  (sortDiagnostics r.diagnostics).map fun ds => { r with diagnostics := ds }

def promoteWarnings (r : Report) : Report :=
  { r with diagnostics := r.diagnostics.map Diagnostic.promoted }

def sortedCounters (r : Report) : List (String × Int) :=
  r.counters.mergeSort fun a b => a.1 ≤ b.1

end Report

/-- The exit code for several roots: the worst of theirs. -/
def exitCodeOfAll (reports : List Report) : Nat :=
  let codes := reports.map Report.exitCode
  if codes.contains 2 then 2 else if codes.contains 1 then 1 else 0

end TwinNode
