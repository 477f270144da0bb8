import TwinNode.Console.Markup
import TwinNode.Report
import TwinNode.Report.Table
import TwinNode.Rule

/-! Reports are written with markup and shown on a console. Values are escaped, the ids of
rules are not. -/

namespace TwinNode

open TwinNode.Console (MarkupFault escape)

def consoleWidth : Nat := 4000

/-- The lines on which a text with markup is shown. -/
def shownLines (markup : String) : Except MarkupFault (List String) :=
  ((Console.render markup).bind (·.draw)).map fun text =>
    (Console.layout consoleWidth .fold text).map String.ofList

def styled (style text : String) : String := "[" ++ style ++ "]" ++ text ++ "[/" ++ style ++ "]"

def Severity.style : Severity → String
  | error => "red"
  | warning => "yellow"

namespace Diagnostic

/-- The path, and the place in the file if there is one, with markup. -/
def placeMarkup (d : Diagnostic) : String :=
  match nonempty? d.location with
  | some location => escape d.path ++ " (" ++ escape location ++ ")"
  | none => escape d.path

/-- The message, and the hint if it is to be shown, with markup. -/
def messageMarkup (d : Diagnostic) (showHints : Bool) : String :=
  match showHints, nonempty? d.hint with
  | true, some hint => escape d.message ++ "\n" ++ styled "dim" ("hint: " ++ escape hint)
  | _, _ => escape d.message

/-- The cells of a diagnostic, with markup. -/
def cells (d : Diagnostic) (showHints : Bool) : List String :=
  [styled d.severity.style d.severity.title, d.ruleId, d.kind.label, d.placeMarkup,
    d.messageMarkup showHints]

end Diagnostic

def diagnosticTable (diagnostics : List Diagnostic) (showHints : Bool) :
    Except MarkupFault Table := do
  let rows ← diagnostics.mapM fun d => (d.cells showHints).mapM Console.render
  return {
    head := ["Severity", "Rule", "Kind", "Location", "Message"].map String.toList
    rows := ← rows.mapM (·.mapM (·.draw)) }

namespace Report

/-- The first line on a root that could be checked, with markup. -/
def summaryMarkup (r : Report) : String :=
  (if r.passed then styled "green" "PASS" else styled "red" "FAIL") ++
    " " ++ escape r.root ++ " " ++ styled "dim" ("(" ++ toString r.errors.length ++ " error(s), " ++
      toString r.warnings.length ++ " warning(s))")

/-- The lines on one root. -/
def lines (r : Report) (showHints : Bool) : Except MarkupFault (List String) :=
  match r.invocationError with
  | some reason =>
    shownLines (styled "red" "ERROR" ++ " " ++ escape r.root ++ ": " ++ escape reason)
  | none => do
    let summary ← shownLines r.summaryMarkup
    if r.diagnostics.isEmpty then return summary
    else return summary ++ (← diagnosticTable r.diagnostics showHints).render consoleWidth

end Report

def joinLines (lines : List String) : String :=
  String.join (lines.map (· ++ "\n"))

def reportsText (reports : List Report) (showHints : Bool) : Except MarkupFault String := do
  let lines ← reports.mapM (·.lines showHints)
  let passed := (reports.filter (·.passed)).length
  return joinLines (lines.flatten ++
    ["", toString reports.length ++ " root(s) checked: " ++ toString passed ++ " passed, " ++
      toString (reports.length - passed) ++ " failed"])

/-- Rules as text; what is said about them holds no markup. -/
def rulesText (rules : List Rule) : String :=
  let row (r : Rule) : List String :=
    [r.id, r.name, r.severity.label, r.kind.label,
      String.intercalate ", " (r.appliesTo.map ArtifactKind.label), r.summary]
  let table : Table :=
    { title := some "nodelint rules"
      head := ["Id", "Name", "Severity", "Kind", "Applies to", "Summary"].map String.toList
      rows := rules.map fun r => (row r).map String.toList }
  joinLines (table.render consoleWidth)

end TwinNode
