import TwinNode.Declaration.Extraction
import TwinNode.Report
import TwinNode.Rule.Catalog

/-! A package is validated by running rules over it; a root by discovering its package
first. Roots are validated one by one, and none of them has a say in the outcome of another.
-/

namespace TwinNode

/-- Why there is no report at all. -/
inductive ValidationError where
  /-- A diagnostic has no place in the order. -/
  | order (e : OrderError)
  | scan (f : ScanFault)
  deriving DecidableEq, Repr

def packageCounters (p : Package) (facts : FactSet) : List (String × Int) :=
  let perKind := p.artifacts.foldl (fun counters a => addCount counters a.kind.counter 1) []
  addCount (addCount perKind "node_units" p.units.length) "identities" facts.identities.length

/-- The contributions of all rules, in the order of the rules. -/
def runRules (rules : List Rule) (context : CheckContext) : List Diagnostic :=
  rules.flatMap (·.run context)

/-- The report on a package. A strict run counts warnings as errors. -/
def checkPackage (settings : RuleSettings) (rules : List Rule) (p : Package) :
    Except OrderError Report :=
  let facts := p.declarations settings
  let found : Report :=
    { root := p.root
      diagnostics := runRules rules ⟨p, facts, settings⟩
      counters := packageCounters p facts }
  (if settings.strict then found.promoteWarnings else found).sort

/-- The report on a root that cannot be checked. -/
def invocationReport (root reason : String) : Report where
  root := root
  diagnostics :=
    [{ severity := .error, ruleId := "INV", kind := .invocationError, message := reason,
       path := "." }]
  invocationError := some reason

/-- Validates a root, which reports name as the user did. -/
def validateRoot (fs : FileSystem) (settings : Settings) (root : String) :
    Except ValidationError Report :=
  match discover fs (Path.Location.ofString root) settings.exclude settings.maxWorkers with
  | .error (.invocation _ problem) => .ok (invocationReport root problem.message)
  | .error (.fault f) => .error (.scan f)
  | .ok p =>
    match checkPackage settings.rules (Rule.enabled settings.rules.disabled) p with
    | .error e => .error (.order e)
    | .ok report => .ok { report with root := root }

/-- Validates several roots, in order. -/
def validate (fs : FileSystem) (settings : Settings) (roots : List String) :
    Except ValidationError (List Report) :=
  roots.mapM (validateRoot fs settings)

end TwinNode
