namespace TwinNode

inductive Severity where
  | error
  | warning
  deriving DecidableEq, Repr

namespace Severity

def label : Severity → String
  | error => "error"
  | warning => "warning"

def title : Severity → String
  | error => "ERROR"
  | warning => "WARNING"

def ofLabel? (label : String) : Option Severity := [error, warning].find? (·.label == label)

end Severity

inductive DiagnosticKind where
  | malformedJson
  | missingArtifact
  | missingIdentity
  | structuralViolation
  | identityMismatch
  | invocationError
  deriving DecidableEq, Repr

namespace DiagnosticKind

def all : List DiagnosticKind :=
  [malformedJson, missingArtifact, missingIdentity, structuralViolation,
    identityMismatch, invocationError]

def label : DiagnosticKind → String
  | malformedJson => "MalformedJson"
  | missingArtifact => "MissingArtifact"
  | missingIdentity => "MissingIdentity"
  | structuralViolation => "StructuralViolation"
  | identityMismatch => "IdentityMismatch"
  | invocationError => "InvocationError"

def ofLabel? (label : String) : Option DiagnosticKind := all.find? (·.label == label)

end DiagnosticKind

/-- A fault that a rule found. -/
structure Diagnostic where
  severity : Severity
  ruleId : String
  kind : DiagnosticKind
  message : String
  path : String
  location : Option String := none
  hint : Option String := none
  deriving DecidableEq, Repr

/-- The text, unless it is missing or empty. -/
def nonempty? (text : Option String) : Option String := text.filter (!·.isEmpty)

namespace Diagnostic

/-- The path, and the place in the file if there is one. -/
def place (d : Diagnostic) : String :=
  match nonempty? d.location with
  | some location => d.path ++ " (" ++ location ++ ")"
  | none => d.path

def text (d : Diagnostic) : String :=
  "[" ++ d.severity.title ++ "] " ++ d.ruleId ++ " " ++ d.kind.label ++ ": " ++
    d.message ++ " in " ++ d.place

def promoted (d : Diagnostic) : Diagnostic := { d with severity := .error }

end Diagnostic

end TwinNode
