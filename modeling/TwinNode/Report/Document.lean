import TwinNode.Json.Printer
import TwinNode.Report
import TwinNode.Rule

namespace TwinNode

open TwinNode.Json (Value)

def textOrNull : Option String → Value
  | some s => .str s
  | none => .null

def Diagnostic.document (d : Diagnostic) : Value :=
  .object
    [("severity", .str d.severity.label), ("ruleId", .str d.ruleId), ("kind", .str d.kind.label),
     ("message", .str d.message), ("artifactPath", .str d.path),
       ("location", textOrNull d.location),
     ("hint", textOrNull d.hint)]

def countersDocument (counters : List (String × Int)) : Value :=
  .object (counters.map fun entry => (entry.1, .int entry.2))

def Report.document (r : Report) : Value :=
  .object
    [("root", .str r.root), ("passed", .bool r.passed), ("exitCode", .int r.exitCode),
     ("invocationError", textOrNull r.invocationError),
     ("counters", countersDocument r.sortedCounters),
     ("diagnostics", .list (r.diagnostics.map Diagnostic.document))]

def reportsDocument (reports : List Report) : Value :=
  .object
    [("passed", .bool (reports.all (·.passed))), ("exitCode", .int (exitCodeOfAll reports)),
     ("results", .list (reports.map Report.document))]

def Rule.document (r : Rule) : Value :=
  .object
    [("id", .str r.id), ("name", .str r.name), ("severity", .str r.severity.label),
     ("kind", .str r.kind.label), ("appliesTo", .list (r.appliesTo.map fun k => .str k.label)),
     ("summary", .str r.summary), ("hint", .str r.hint)]

def rulesDocument (rules : List Rule) : Value := .list (rules.map Rule.document)

end TwinNode
