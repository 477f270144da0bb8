import TwinNode.FileSystem
import TwinNode.Glob
import TwinNode.Package.NodeUnit

/-! Finds the artifacts of a package below its root, reads them and groups them into units.
Hidden directories, `node_modules` and excluded files and directories are left out. -/

namespace TwinNode

structure Package where
  /-- The root as an absolute path. -/
  root : String
  artifacts : List Artifact
  units : List NodeUnit

namespace Package

def descriptor? (p : Package) : Option Artifact := p.artifacts.find? (·.kind = .descriptor)

def ofKind (p : Package) (kind : ArtifactKind) : List Artifact := p.artifacts.filter (·.kind = kind)

def get? (p : Package) (path : String) : Option Artifact := p.artifacts.find? (·.path == path)

end Package

/-- Why a root cannot be checked at all. -/
inductive RootProblem where
  | missing
  | notDirectory
  | unreadable (path file : String) (error : AccessError)
  deriving DecidableEq, Repr

def RootProblem.message : RootProblem → String
  | missing => "path does not exist"
  | notDirectory => "path is not a directory"
  | unreadable path file error => "cannot read " ++ path ++ ": " ++ error.message file

/-- Why files cannot be looked up or read at all. -/
inductive ScanFault where
  /-- A JSON file is too much to be read. -/
  | excess (e : Json.Excess)
  /-- The root has a name that is too long to look up. -/
  | nameTooLong
  /-- Nobody is there to read files. -/
  | noWorker
  deriving DecidableEq, Repr

/-- Why discovery fails. -/
inductive DiscoveryError where
  /-- The root, as messages name it, cannot be checked. -/
  | invocation (root : String) (problem : RootProblem)
  | fault (f : ScanFault)
  deriving DecidableEq, Repr

def skippedDirectories : List String := ["node_modules"]

/-- Whether discovery enters the directory that is reached by `names` from the root. -/
def entersDirectory (exclude : List String) (names : List String) : Bool :=
  match names.getLast? with
  | none => true
  | some name =>
    name.toList.head? != some '.' && !skippedDirectories.contains name &&
      !Glob.excludesDirectory exclude (Path.normalize (Path.join names))

/-- Whether discovery finds the file that is reached by `names` from the root: all directories on
the way are entered and the file itself is not excluded. -/
def findsFile (exclude : List String) (names : List String) : Bool :=
  ((List.range names.length).all fun depth => entersDirectory exclude (names.take depth)) &&
    !Glob.excludesFile exclude (Path.normalize (Path.join names))

def sortPaths (paths : List String) : List String := paths.mergeSort fun a b => a ≤ b

/-- The paths below a root that discovery finds. -/
def foundFiles (fs : FileSystem) (exclude : List String) (root : Place) : List String :=
  sortPaths (((fs.filesBelow root).filter (findsFile exclude)).map fun names =>
    Path.normalize (Path.join names))

def loadArtifact (fs : FileSystem) (root : Place) (kind : ArtifactKind) (path : String) :
    Except DiscoveryError Artifact :=
  let file := (Path.Location.mk .top root).append path
  match fs.read file with
  | .error e => .error (.invocation (Place.text root) (.unreadable path file.text e))
  | .ok bytes =>
    let text := Text.readText bytes
    match Content.ofText fs.room kind path text with
    | .error e => .error (.fault (.excess e))
    | .ok content => .ok ⟨kind, path, text, content⟩

def checkRoot (fs : FileSystem) (root : Path.Location) : Except DiscoveryError Place :=
  match fs.find? root with
  | .error .nameTooLong => .error (.fault .nameTooLong)
  | .ok none => .error (.invocation root.text .missing)
  | .ok (some p) =>
    if fs.isDirectory p then .ok (fs.resolve root) else .error (.invocation root.text .notDirectory)

/-- The paths that the registrations of a descriptor name. -/
def referencedPaths (registrations : List (String × Json.Value)) : List String :=
  registrations.filterMap fun entry => entry.2.str?.map Path.normalizeReference

/-- The files that are artifacts, the descriptor apart, with their kinds. -/
def classifyFiles (files referenced : List String) : List (String × ArtifactKind) :=
  (files.filter (· ≠ descriptorName)).filterMap fun path =>
    (classify (siblingsAmong files) referenced path).map (path, ·)

/-- Finds and reads the artifacts below a root. The descriptor comes first, because it names
scripts; the others are read by workers, of which there has to be one. -/
def loadArtifacts (fs : FileSystem) (root : Place) (workers : Int) (files : List String) :
    Except DiscoveryError (List Artifact) := do
  let descriptor ←
    if files.contains descriptorName then
      (loadArtifact fs root .descriptor descriptorName).map some
    else .ok none
  let referenced := referencedPaths ((descriptor.map Artifact.registrations).getD [])
  if workers < 1 then throw (.fault .noWorker)
  let others ← (classifyFiles files referenced).mapM fun entry =>
    loadArtifact fs root entry.2 entry.1
  .ok ((others ++ descriptor.toList).mergeSort fun a b => a.path ≤ b.path)

def discover (fs : FileSystem) (root : Path.Location) (exclude : List String) (workers : Int) :
    Except DiscoveryError Package := do
  let place ← checkRoot fs root
  let artifacts ← loadArtifacts fs place workers (foundFiles fs exclude place)
  .ok ⟨Place.text place, artifacts, groupUnits artifacts⟩

end TwinNode
