import TwinNode.Json.Reader
import TwinNode.Path.Reference
import TwinNode.Scan.Views
import TwinNode.Text.Utf8

/-! The files of a package that the checks look at. Their kind follows from name and place,
and decides how the text is taken: scripts and markup are scanned, JSON is read, and of a
help page only its presence matters. -/

namespace TwinNode

inductive ArtifactKind where
  | hostStub
  | deviceScript
  | editorMarkup
  | descriptor
  | manifest
  | localeBundle
  deriving DecidableEq, Repr

namespace ArtifactKind

def all : List ArtifactKind :=
  [hostStub, deviceScript, editorMarkup, descriptor, manifest, localeBundle]

def label : ArtifactKind → String
  | hostStub => "host-stub-script"
  | deviceScript => "device-script"
  | editorMarkup => "editor-markup"
  | descriptor => "package-descriptor"
  | manifest => "device-manifest"
  | localeBundle => "locale-bundle"

def counter (k : ArtifactKind) : String :=
  "artifacts_" ++ String.ofList (k.label.toList.map fun c => if c = '-' then '_' else c)

def ofLabel? (label : String) : Option ArtifactKind := all.find? (·.label == label)

def isJson : ArtifactKind → Bool
  | descriptor | manifest | localeBundle => true
  | hostStub | deviceScript | editorMarkup => false

end ArtifactKind

/-- What an artifact holds. -/
inductive Content where
  | scanned (views : Views)
  | json (value : Json.Value)
  /-- A text that should be JSON and is not. -/
  | malformed (error : Json.SyntaxError)
  | present

/-- A file of a package. -/
structure Artifact where
  kind : ArtifactKind
  path : String
  text : List Char
  content : Content

namespace Artifact

def directory (a : Artifact) : String := Path.directory a.path

def stem (a : Artifact) : String := Path.stem (Path.name a.path)

def syntaxError? (a : Artifact) : Option Json.SyntaxError :=
  match a.content with
  | .malformed e => some e
  | _ => none

/-- Whether the artifact is free of syntax errors. -/
def isParsed (a : Artifact) : Bool := a.syntaxError?.isNone

def views? (a : Artifact) : Option Views :=
  match a.content with
  | .scanned v => some v
  | _ => none

def json? (a : Artifact) : Option Json.Value :=
  match a.content with
  | .json v => some v
  | _ => none

end Artifact

/-- What a text holds, for an artifact of the given kind and path; fails only if it is too much to
be read. -/
def Content.ofText (room : Nat) (kind : ArtifactKind) (path : String) (text : List Char) :
    Except Json.Excess Content :=
  match kind with
  | .hostStub | .deviceScript => .ok (.scanned (Script.views text))
  | .editorMarkup => .ok (.scanned (Markup.views text))
  | _ =>
    if Path.hasSuffix Path.jsonSuffix path then
      match Json.read room text with
      | .ok v => .ok (.json v)
      | .error (.malformed e) => .ok (.malformed e)
      | .error (.excess e) => .error e
    else .ok .present

/-- The node map of a descriptor: the object `nodes` inside the object `node-red`. -/
def registrations? (descriptor : Json.Value) : Option (List (String × Json.Value)) :=
  (descriptor.member? "node-red").bind fun section_ =>
    (section_.member? "nodes").bind Json.Value.members?

/-- The node map of a descriptor artifact, empty if it has none. -/
def Artifact.registrations (a : Artifact) : List (String × Json.Value) :=
  (a.json?.bind registrations?).getD []

end TwinNode
