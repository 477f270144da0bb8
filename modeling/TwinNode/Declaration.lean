namespace TwinNode

/-- The ways in which a file declares a type name. -/
inductive IdentityRole where
  | registrationCall
  | staticField
  | templateName
  | helpName
  | descriptorKey
  deriving DecidableEq, Repr

namespace IdentityRole

def all : List IdentityRole :=
  [registrationCall, staticField, templateName, helpName, descriptorKey]

def label : IdentityRole → String
  | registrationCall => "registration call argument"
  | staticField => "static field initializer"
  | templateName => "template name attribute"
  | helpName => "help name attribute"
  | descriptorKey => "descriptor map key"

end IdentityRole

/-- A type name and where it is declared. -/
structure Identity where
  path : String
  role : IdentityRole
  value : String
  location : String
  deriving DecidableEq, Repr

/-- The place of a declaration in words. -/
def Identity.describe (i : Identity) : String := i.path ++ " (" ++ i.role.label ++ ")"

/-- How a type name is written where one belongs. -/
inductive Form where
  | literal
  | dynamic
  | missing
  deriving DecidableEq, Repr

def Form.label : Form → String
  | literal => "literal"
  | dynamic => "dynamic"
  | missing => "missing"

/-- What kind of JSON value stands at some place. -/
inductive Shape where
  | missing
  | object
  | array
  | string
  | invalid
  deriving DecidableEq, Repr

def Shape.label : Shape → String
  | missing => "missing"
  | object => "object"
  | array => "array"
  | string => "string"
  | invalid => "invalid"

inductive FactName where
  | usesImportStatement
  | referencesDeviceModule
  | usesDefaultExport
  | hasStaticRegistration
  | registrationCall
  | staticTypeField
  | declaresManifestInclude
  | manifestModulesShape
  | manifestPathHasJsExtension
  | manifestPreloadShape
  | descriptorNodeMapShape
  deriving DecidableEq, Repr

namespace FactName

def all : List FactName :=
  [usesImportStatement, referencesDeviceModule, usesDefaultExport,
    hasStaticRegistration, registrationCall,
   staticTypeField, declaresManifestInclude, manifestModulesShape, manifestPathHasJsExtension,
   manifestPreloadShape, descriptorNodeMapShape]

def label : FactName → String
  | usesImportStatement => "usesImportStatement"
  | referencesDeviceModule => "referencesDeviceModule"
  | usesDefaultExport => "usesDefaultExport"
  | hasStaticRegistration => "hasStaticRegistration"
  | registrationCall => "registrationCall"
  | staticTypeField => "staticTypeField"
  | declaresManifestInclude => "declaresManifestInclude"
  | manifestModulesShape => "manifestModulesShape"
  | manifestPathHasJsExtension => "manifestPathHasJsExtension"
  | manifestPreloadShape => "manifestPreloadShape"
  | descriptorNodeMapShape => "descriptorNodeMapShape"

def ofLabel? (label : String) : Option FactName := all.find? (·.label == label)

end FactName

/-- What is noted for a fact. -/
inductive FactValue where
  | flag (b : Bool)
  | form (f : Form)
  | shape (s : Shape)
  | text (s : String)
  deriving DecidableEq, Repr

structure Fact where
  path : String
  name : FactName
  value : FactValue
  location : Option String := none
  deriving DecidableEq, Repr

/-- The declared type names and the facts of a package, in the order in which they were found. -/
structure FactSet where
  identities : List Identity
  facts : List Fact
  deriving DecidableEq, Repr

namespace FactSet

def empty : FactSet := ⟨[], []⟩

def append (a b : FactSet) : FactSet := ⟨a.identities ++ b.identities, a.facts ++ b.facts⟩

instance : Append FactSet := ⟨append⟩

def identitiesFor (s : FactSet) (path : String) : List Identity :=
  s.identities.filter (·.path == path)

def factsFor (s : FactSet) (path : String) (name : FactName) : List Fact :=
  s.facts.filter fun f => f.path == path && f.name == name

def fact? (s : FactSet) (path : String) (name : FactName) : Option Fact :=
  (s.factsFor path name).head?

/-- Whether a fact is noted as true. -/
def holds (s : FactSet) (path : String) (name : FactName) : Bool :=
  (s.fact? path name).any (·.value == .flag true)

def form (s : FactSet) (path : String) (name : FactName) : Form :=
  match (s.fact? path name).map Fact.value with
  | some (.form f) => f
  | _ => .missing

def shape (s : FactSet) (path : String) (name : FactName) : Shape :=
  match (s.fact? path name).map Fact.value with
  | some (.shape f) => f
  | _ => .missing

/-- How many type names are declared in each role that occurs. -/
def counts (s : FactSet) : List (IdentityRole × Nat) :=
  (IdentityRole.all.map fun role => (role, s.identities.countP (·.role == role))).filter (·.2 != 0)

end FactSet

end TwinNode
