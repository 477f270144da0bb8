import TwinNode.Path.Name
import TwinNode.Text.Blank

/-! A descriptor names files by references. Outer blanks, backslashes, empty and `.`
segments, and pairs of a segment and `..` make no difference; what is left compares equal to
the paths of a package. -/

namespace TwinNode.Path

open TwinNode.Text

/-- The slashes that mark a path as absolute: one, or two if there are exactly two. -/
def leadingSlashes (path : List Char) : List Char :=
  match (path.takeWhile (· == '/')).length with
  | 0 => []
  | 2 => ['/', '/']
  | _ => ['/']

/-- Adds a segment to the segments so far, last one first. A `..` takes back the segment before it;
where there is none it stays, unless the path is absolute. -/
def pushSegment (absolute : Bool) (done : List (List Char)) (segment : List Char) :
    List (List Char) :=
  if segment = [] ∨ segment = ['.'] then done
  else if segment = ['.', '.'] then
    match done with
    | [] => if absolute then [] else [segment]
    | last :: before => if last = ['.', '.'] then segment :: done else before
  else segment :: done

/-- The shortest path that means the same without looking at the files. -/
def simplify (path : List Char) : List Char :=
  let leading := leadingSlashes path
  let done := (splitSlashes path).foldl (pushSegment !leading.isEmpty) []
  leading ++ List.intercalate ['/'] done.reverse

def normalizeReference (reference : String) : String :=
  String.ofList (simplify ((trim reference.toList).map fun c => if c = '\\' then '/' else c))

end TwinNode.Path
