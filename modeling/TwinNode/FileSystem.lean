import TwinNode.Path.Location
import TwinNode.Text.Quoted

/-! A file system is a value: which files there are, what they hold, which directory is the
working one, and how much room there is to read them. There are no links, so a location
means one place. Whether something is at a location cannot be told if a name in it is too
long. -/

namespace TwinNode

/-- A place in a file system: the names on the way down from the top directory. -/
abbrev Place := List String

def Place.text (p : Place) : String := "/" ++ Path.join p

abbrev Bytes := List UInt8

/-- A file system. Every directory above a file or a listed directory exists too. -/
structure FileSystem where
  files : List (Place × Bytes)
  directories : List Place
  workingDirectory : Place
  /-- How many lists and objects of a file can be open at once while it is read. -/
  room : Nat

/-- Why a location cannot be opened as a file. -/
inductive AccessError where
  | missing
  | notDirectory
  | isDirectory
  | nameTooLong
  deriving DecidableEq, Repr

def AccessError.message (path : String) : AccessError → String
  | missing => "[Errno 2] No such file or directory: " ++ Text.quoted path
  | notDirectory => "[Errno 20] Not a directory: " ++ Text.quoted path
  | isDirectory => "[Errno 21] Is a directory: " ++ Text.quoted path
  | nameTooLong => "[Errno 36] File name too long: " ++ Text.quoted path

/-- Why it cannot be told whether something is at a location. -/
inductive LookupFault where
  | nameTooLong
  deriving DecidableEq, Repr

def maxNameBytes : Nat := 255

def maxPathBytes : Nat := 4095

/-- The room that a program has as a rule. -/
def usualRoom : Nat := 980

namespace FileSystem

def contents? (fs : FileSystem) (p : Place) : Option Bytes :=
  (fs.files.find? (·.1 == p)).map (·.2)

def isFile (fs : FileSystem) (p : Place) : Bool :=
  fs.files.any (·.1 == p)

def isDirectory (fs : FileSystem) (p : Place) : Bool :=
  p.isEmpty || p.isPrefixOf fs.workingDirectory || fs.directories.any p.isPrefixOf ||
    fs.files.any fun file => p.isPrefixOf file.1.dropLast

/-- Goes from a place down a row of names; `..` goes up. Every place on the way has to be a
directory. -/
def follow (fs : FileSystem) (p : Place) : List String → Except AccessError Place
  | [] => .ok p
  | name :: names =>
    if !fs.isDirectory p then .error .notDirectory
    else if name = ".." then fs.follow p.dropLast names
    else if maxNameBytes < name.utf8ByteSize then .error .nameTooLong
    else if fs.isDirectory (p ++ [name]) || fs.isFile (p ++ [name]) then
      fs.follow (p ++ [name]) names
    else .error .missing

/-- Where a location counts from. -/
def origin (fs : FileSystem) (l : Path.Location) : Place :=
  match l.anchor with
  | .relative => fs.workingDirectory
  | _ => []

/-- The place that a location names, if something is there. No name holds a NUL. -/
def find (fs : FileSystem) (l : Path.Location) : Except AccessError Place :=
  if l.text.toList.contains '\x00' then .error .missing
  else if maxPathBytes < l.text.utf8ByteSize then .error .nameTooLong
  else fs.follow (fs.origin l) l.segments

/-- The place that a location names, or nothing if nothing is there. -/
def find? (fs : FileSystem) (l : Path.Location) : Except LookupFault (Option Place) :=
  match fs.find l with
  | .ok p => .ok (some p)
  | .error .nameTooLong => .error .nameTooLong
  | .error _ => .ok none

/-- The place that a location names, whether or not something is there. -/
def resolve (fs : FileSystem) (l : Path.Location) : Place :=
  l.segments.foldl (fun p name => if name = ".." then p.dropLast else p ++ [name]) (fs.origin l)

def holds (fs : FileSystem) (l : Path.Location) : Except LookupFault Bool :=
  (fs.find? l).map Option.isSome

def holdsFile (fs : FileSystem) (l : Path.Location) : Except LookupFault Bool :=
  (fs.find? l).map (·.any fs.isFile)

def holdsDirectory (fs : FileSystem) (l : Path.Location) : Except LookupFault Bool :=
  (fs.find? l).map (·.any fs.isDirectory)

def read (fs : FileSystem) (l : Path.Location) : Except AccessError Bytes :=
  match fs.find l with
  | .error e => .error e
  | .ok p =>
    match fs.contents? p with
    | some bytes => .ok bytes
    | none => .error .isDirectory

/-- The names on the way from a directory down to each file below it. -/
def filesBelow (fs : FileSystem) (root : Place) : List (List String) :=
  fs.files.filterMap fun file =>
    if root.isPrefixOf file.1 && root.length < file.1.length then some (file.1.drop root.length)
    else none

/-- The file system with a file at a place; a file that was there is replaced. -/
def write (fs : FileSystem) (p : Place) (bytes : Bytes) : FileSystem :=
  { fs with files := fs.files.filter (·.1 != p) ++ [(p, bytes)] }

/-- The file system with a directory at a place. -/
def makeDirectory (fs : FileSystem) (p : Place) : FileSystem :=
  { fs with directories := fs.directories ++ [p] }

/-- The file system without what is at or below a place. The directory around it stays, if there is
one. -/
def remove (fs : FileSystem) (p : Place) : FileSystem :=
  { fs with
    files := fs.files.filter fun file => !p.isPrefixOf file.1
    directories := (fs.directories.filter fun d => !p.isPrefixOf d) ++
      if fs.isDirectory p.dropLast then [p.dropLast] else [] }

@[simp] theorem room_write (fs : FileSystem) (p : Place) (bytes : Bytes) :
    (fs.write p bytes).room = fs.room := rfl

end FileSystem

end TwinNode
