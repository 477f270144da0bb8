import TwinNode.CommandLine
import TwinNode.Settings.Decode

/-! Requests are carried out on a file system that is a value. Here that value is made from
the files that a request can look at, and the outcome is printed. -/

namespace TwinNode

/-- Adds a directory and what is below it. Linked directories and those that discovery never enters
are left out. -/
partial def addTree (fs : FileSystem) (p : Place) : IO FileSystem := do
  let here := (← IO.currentDir) / p.text
  let mut fs := fs.makeDirectory p
  for entry in ← here.readDir do
    let inside := p ++ [entry.fileName]
    let isLink := (← entry.path.symlinkMetadata).type matches .symlink
    if ← entry.path.isDir then
      if !isLink && !entry.fileName.startsWith "." &&
        !skippedDirectories.contains entry.fileName then
        fs ← addTree fs inside
    else if ← entry.path.pathExists then
      fs := fs.write inside (← IO.FS.readBinFile entry.path).toList
  return fs

/-- Adds what is at a place, if anything is: a file with its content, a directory without. -/
def addPlace (fs : FileSystem) (p : Place) : IO FileSystem := do
  let here := (← IO.currentDir) / p.text
  if ← here.isDir then return fs.makeDirectory p
  else if ← here.pathExists then return fs.write p (← IO.FS.readBinFile here).toList
  else return fs

/-- Adds a root: a directory with all that is below it, anything else as it is. -/
def addRoot (fs : FileSystem) (p : Place) : IO FileSystem := do
  if ← ((← IO.currentDir) / p.text).isDir then addTree fs p else addPlace fs p

/-- The file system as far as a request can look at it. -/
def visibleTo (request : CommandLine.Request) : IO FileSystem := do
  let working := (Path.segments (← IO.currentDir).toString).filter (!·.isEmpty)
  let empty : FileSystem := ⟨[], [], working, usualRoom⟩
  match request with
  | .validate roots _ _ config _ =>
    let places := roots.map empty.resolve
    let settings :=
      (working :: places.take 1).flatMap settingsPlaces ++ (config.map empty.resolve).toList
    let fs ← settings.foldlM addPlace empty
    places.foldlM addRoot fs
  | _ => return empty

/-- Carries out a command line on the files of the system and prints the outcome. -/
def program (args : List String) : IO UInt32 := do
  let fs ← match CommandLine.request? args with
    | some request => visibleTo request
    | none => pure ⟨[], [], [], usualRoom⟩
  match CommandLine.run Settings.ofMembers fs args with
  | .ok outcome =>
    IO.print outcome.output
    IO.eprint outcome.complaint
    return UInt32.ofNat outcome.exitCode
  | .error _ =>
    IO.eprintln "Error: a file cannot be read or a report cannot be shown"
    return 1

end TwinNode

def main (args : List String) : IO UInt32 := TwinNode.program args
