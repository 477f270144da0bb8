import TwinNode.Path.Name

/-! Where the user points: a path of the file system as it is given on the command line.
Repeated slashes and `.` segments are dropped, `..` is kept. -/

namespace TwinNode.Path

/-- From where a location counts. -/
inductive Anchor where
  | relative
  | top
  /-- From the top directory, written with exactly two slashes. -/
  | doubleTop
  deriving DecidableEq, Repr

def Anchor.text : Anchor → String
  | relative => ""
  | top => "/"
  | doubleTop => "//"

structure Location where
  anchor : Anchor
  segments : List String
  deriving DecidableEq, Repr

namespace Location

def ofString (path : String) : Location :=
  let anchor := match (path.toList.takeWhile (· == '/')).length with
    | 0 => Anchor.relative
    | 2 => Anchor.doubleTop
    | _ => Anchor.top
  ⟨anchor, (Path.segments path).filter fun s => s ≠ "" ∧ s ≠ "."⟩

def text (l : Location) : String :=
  let written := l.anchor.text ++ join l.segments
  if written.isEmpty then "." else written

/-- The location as seen from `root`, if it lies at or below it. -/
def relativeTo? (l root : Location) : Option Location :=
  if l.anchor = root.anchor ∧ root.segments.isPrefixOf l.segments then
    some ⟨.relative, l.segments.drop root.segments.length⟩
  else none

/-- A path below a location; an absolute path stands for itself. -/
def append (l : Location) (path : String) : Location :=
  let below := ofString path
  if below.anchor = .relative then ⟨l.anchor, l.segments ++ below.segments⟩ else below

end Location

/-- The path of a location below a root, with slashes only. -/
def relativePath? (path root : String) : Option String :=
  ((Location.ofString path).relativeTo? (Location.ofString root)).map fun l => normalize l.text

end TwinNode.Path
