import TwinNode.Declaration
import TwinNode.Diagnostic
import TwinNode.Package.Discovery
import TwinNode.Settings

/-! A rule is data: what it is called, what it reports, and a check that looks at a package
and its declarations. A check gives findings, which the rule's own kind, severity and hint
complete to diagnostics, or it breaks off. -/

namespace TwinNode

/-- What a check found, as far as it differs from what its rule says. -/
structure Finding where
  path : String
  message : String
  location : Option String := none
  kind : Option DiagnosticKind := none
  severity : Option Severity := none
  hint : Option String := none
  deriving DecidableEq, Repr

/-- What a check may look at. -/
structure CheckContext where
  package : Package
  facts : FactSet
  settings : RuleSettings

/-- The findings of a check, or the reason why it broke off. -/
abbrev Check := CheckContext → Except String (List Finding)

/-- A rule of the catalog. -/
structure Rule where
  id : String
  name : String
  appliesTo : List ArtifactKind
  kind : DiagnosticKind
  severity : Severity
  summary : String
  hint : String
  check : Check

namespace Rule

def diagnostic (r : Rule) (f : Finding) : Diagnostic where
  severity := f.severity.getD r.severity
  ruleId := r.id
  kind := f.kind.getD r.kind
  message := f.message
  path := f.path
  location := f.location
  hint := some ((nonempty? f.hint).getD r.hint)

/-- The diagnostic of a check that broke off. -/
def failure (r : Rule) (reason : String) : Diagnostic where
  severity := .error
  ruleId := r.id
  kind := r.kind
  message := "Rule execution failed: " ++ reason
  path := "."

/-- What a rule contributes to the diagnostics of a package: its findings, or one diagnostic if its
check breaks off. -/
def run (r : Rule) (context : CheckContext) : List Diagnostic :=
  match r.check context with
  | .ok findings => findings.map r.diagnostic
  | .error reason => [r.failure reason]

/-- Whether two rule ids are the same, whatever their case. -/
def sameId (a b : String) : Bool :=
  a.toList.map Char.toUpper == b.toList.map Char.toUpper

end Rule

end TwinNode
