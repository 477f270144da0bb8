import TwinNode.Package.Classify

/-! The artifacts of one node share directory and stem. A device manifest belongs to the
units of its directory that have a device script, or to the only unit there; a locale bundle
to the unit next to its last `locales` directory; a key of the descriptor to the unit whose
stub its value names. -/

namespace TwinNode

/-- The directory and the stem of a unit. -/
abbrev UnitKey := String × String

structure NodeUnit where
  directory : String
  stem : String
  stub : Option Artifact
  device : Option Artifact
  markup : Option Artifact
  manifest : Option Artifact
  locales : List Artifact
  descriptorKeys : List String

namespace NodeUnit

/-- The name of the unit in reports. -/
def key (u : NodeUnit) : String := Path.child u.directory u.stem

/-- Whether the node runs on a device too. -/
def isDual (u : NodeUnit) : Bool := u.device.isSome || u.manifest.isSome

/-- The artifacts that declare the type of the node. -/
def scriptsAndMarkup (u : NodeUnit) : List Artifact :=
  [u.stub, u.device, u.markup].filterMap id

end NodeUnit

def Artifact.unitKey (a : Artifact) : UnitKey := (a.directory, a.stem)

/-- The kinds of artifacts that make up units. -/
def ArtifactKind.isNodePart : ArtifactKind → Bool
  | hostStub | deviceScript | editorMarkup => true
  | descriptor | manifest | localeBundle => false

/-- The keys of all units, each once. -/
def unitKeys (artifacts : List Artifact) : List UnitKey :=
  ((artifacts.filter (·.kind.isNodePart)).map Artifact.unitKey).eraseDups

/-- The last artifact of a kind with the key of a unit. -/
def slot? (artifacts : List Artifact) (kind : ArtifactKind) (key : UnitKey) : Option Artifact :=
  (artifacts.filter fun a => a.kind = kind && a.unitKey == key).getLast?

/-- The key of the unit that a locale bundle belongs to. -/
def localeOwner? (path : String) : Option UnitKey :=
  let parts := (Path.segments (Path.directory path)).reverse
  match parts.dropWhile (· != localesDirectory) with
  | [] => none
  | _ :: owner => some (Path.join owner.reverse, Path.stem (Path.name path))

/-- The key of the unit that a reference of the descriptor names. -/
def referencedUnit (reference : String) : UnitKey :=
  let stub := Path.stubPath (Path.normalizeReference reference)
  (Path.directory stub, Path.stem (Path.name stub))

/-- The node map of the last descriptor among artifacts. -/
def registrationsAmong (artifacts : List Artifact) : List (String × Json.Value) :=
  match (artifacts.filter (·.kind = .descriptor)).getLast? with
  | some a => a.registrations
  | none => []

/-- The manifest of the unit with the given key. -/
def unitManifest? (artifacts : List Artifact) (key : UnitKey) : Option Artifact :=
  let neighbours := (unitKeys artifacts).filter (·.1 == key.1)
  if (slot? artifacts .deviceScript key).isSome || neighbours.length = 1 then
    (artifacts.filter fun a => a.kind = .manifest && a.directory == key.1).getLast?
  else none

def unitOf (artifacts : List Artifact) (key : UnitKey) : NodeUnit where
  directory := key.1
  stem := key.2
  stub := slot? artifacts .hostStub key
  device := slot? artifacts .deviceScript key
  markup := slot? artifacts .editorMarkup key
  manifest := unitManifest? artifacts key
  locales := artifacts.filter fun a => a.kind = .localeBundle && localeOwner? a.path == some key
  descriptorKeys := ((registrationsAmong artifacts).filter fun entry =>
    entry.2.str?.any fun reference => referencedUnit reference == key).map (·.1)

def UnitKey.le (a b : UnitKey) : Bool :=
  a.1 < b.1 || (a.1 == b.1 && a.2 ≤ b.2)

/-- The units of a package, in the order of their keys. -/
def groupUnits (artifacts : List Artifact) : List NodeUnit :=
  ((unitKeys artifacts).mergeSort UnitKey.le).map (unitOf artifacts)

end TwinNode
