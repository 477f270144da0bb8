import TwinNode.Declaration.Extraction
import TwinNode.Rule

/-! The type name of a node is one string in every file that declares it. Every script and
markup has to declare it as a literal; the declarations of one file have to agree; and so do
the first declarations of all files and the keys of the descriptor. -/

namespace TwinNode.Rule

/-- The fact that tells how an artifact declares its type name, and that declaration in words. -/
def requiredIdentity? : ArtifactKind → Option (FactName × String)
  | .hostStub | .editorMarkup => some (.registrationCall, "registerType() call")
  | .deviceScript => some (.staticTypeField, "static type field")
  | _ => none

/-- The finding that an artifact declares no type name. -/
def missingIdentity? (facts : FactSet) (a : Artifact) : Option Finding :=
  (requiredIdentity? a.kind).bind fun required =>
    let found := fun message : String =>
      some { path := a.path, message, kind := some .missingIdentity : Finding }
    match facts.form a.path required.1 with
    | .literal => none
    | .dynamic => found ("Type name in " ++ required.2 ++ " is not a string literal")
    | .missing => found ("No type name declared: " ++ required.2 ++ " not found")

/-- The declarations of an artifact; of a device script, static fields come first. -/
def declared (facts : FactSet) (a : Artifact) : List Identity :=
  let identities := facts.identitiesFor a.path
  if a.kind = .deviceScript then
    identities.filter (·.role = .staticField) ++ identities.filter (·.role ≠ .staticField)
  else identities

def describeIdentity (i : Identity) : String :=
  "\"" ++ i.value ++ "\" (" ++ i.role.label ++ ", " ++ i.location ++ ")"

/-- The declarations that differ from the first one. -/
def divergent (identities : List Identity) : List Identity :=
  match identities with
  | [] => []
  | first :: rest => rest.filter (·.value ≠ first.value)

/-- The finding that the declarations of one artifact disagree. -/
def disagreement? (facts : FactSet) (a : Artifact) : Option Finding :=
  let identities := declared facts a
  (divergent identities).head?.map fun other =>
    { path := a.path
      message := "Type names disagree within the file: " ++
        String.intercalate ", " (identities.map describeIdentity)
      location := some other.location }

/-- The artifacts of a unit that can declare its type name. -/
def declaring (u : NodeUnit) : List Artifact := u.scriptsAndMarkup.filter (·.isParsed)

/-- The keys of the descriptor that belong to a unit. -/
def keyIdentities (context : CheckContext) (u : NodeUnit) : List Identity :=
  match context.package.descriptor? with
  | none => []
  | some descriptor =>
    if descriptor.isParsed then
      (context.facts.identitiesFor descriptor.path).filter fun i =>
        (u.descriptorKeys.map registrationLocation).contains i.location
    else []

/-- One declaration for each file: the first of each artifact, and the keys of the descriptor. -/
def representatives (context : CheckContext) (u : NodeUnit) : List Identity :=
  (declaring u).filterMap (fun a => (declared context.facts a).head?) ++ keyIdentities context u

def frequency (identities : List Identity) (value : String) : Nat :=
  identities.countP (·.value == value)

/-- Whether a declaration is preferred to another: the more frequent value, then the smaller
path. -/
def preferred (identities : List Identity) (a b : Identity) : Bool :=
  frequency identities b.value < frequency identities a.value ||
    (frequency identities a.value == frequency identities b.value && a.path ≤ b.path)

/-- The declaration that the others are held against: that of the host stub if it agrees with
itself, else the preferred one. -/
def reference? (facts : FactSet) (u : NodeUnit) (identities : List Identity) : Option Identity :=
  let ofStub := u.stub.bind fun stub =>
    if (disagreement? facts stub).isSome then none else identities.find? (·.path == stub.path)
  ofStub.or (identities.mergeSort (preferred identities)).head?

/-- Whether a declaration comes before another in a report: by path, then by place. -/
def reportedBefore (a b : Identity) : Bool :=
  a.path < b.path || (a.path == b.path && a.location ≤ b.location)

/-- The finding that the files of a unit declare different type names. -/
def mismatch? (context : CheckContext) (u : NodeUnit) : Option Finding :=
  let identities := representatives context u
  (reference? context.facts u identities).bind fun reference =>
    let others := (identities.filter (·.value ≠ reference.value)).mergeSort reportedBefore
    others.head?.map fun first =>
      { path := first.path
        message := "Type name mismatch for node " ++ u.key ++ ": expected \"" ++ reference.value ++
          "\" as declared in " ++ reference.describe ++ ", found " ++
          String.intercalate ", " (others.map fun i => "\"" ++ i.value ++ "\" in " ++ i.describe)
        location := some first.location }

def unitIdentity (context : CheckContext) (u : NodeUnit) : List Finding :=
  (declaring u).flatMap (fun a =>
    (missingIdentity? context.facts a).toList ++ (disagreement? context.facts a).toList) ++
    (mismatch? context u).toList

/-- The type name of a node is one string everywhere. -/
def identityConsistency (context : CheckContext) : List Finding :=
  context.package.units.flatMap (unitIdentity context)

end TwinNode.Rule
