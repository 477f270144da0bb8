import TwinNode.Package.Artifact

/-! The kind of a file follows from its path, from the names next to it and from the
references of the descriptor. Markup and scripts count only as part of a node: next to one
another, or named by the descriptor. -/

namespace TwinNode

/-- The path of the descriptor of a package. -/
def descriptorName : String := "package.json"

def manifestName : String := "manifest.json"

def localesDirectory : String := "locales"

/-- The small forms of the names of all files in each directory. -/
def siblingsAmong (files : List String) (directory : String) : List String :=
  (files.filter (Path.directory · == directory)).map fun path => Path.lowerName (Path.name path)

/-- The kind of the file with the given path. `siblings` gives the small forms of the names in a
directory, and `referenced` the paths that the descriptor names. -/
def classify (siblings : String → List String) (referenced : List String) (path : String) :
    Option ArtifactKind :=
  let directory := Path.directory path
  let name := Path.name path
  let names := siblings directory
  let isPaired := fun suffixes : List String =>
    suffixes.any fun suffix => names.contains (Path.stem (Path.lowerName name) ++ suffix)
  if path = descriptorName then some .descriptor
  -- What is below a directory for languages is neither the markup nor the manifest of a node.
  else if (Path.segments directory).contains localesDirectory &&
      (Path.hasSuffix Path.jsonSuffix name || Path.isMarkup name) then some .localeBundle
  else if Path.hasSuffix Path.deviceScriptSuffix name then some .deviceScript
  else if Path.lowerName name = manifestName then some .manifest
  else if Path.isMarkup name then
    let stub := Path.dropEnd name.length path ++ Path.stem name ++ Path.scriptSuffix
    if isPaired [Path.scriptSuffix, Path.deviceScriptSuffix] ||
        (referenced.map Path.stubPath).contains stub then some .editorMarkup
    else none
  else if Path.hasSuffix Path.scriptSuffix name then
    if isPaired (Path.markupSuffixes ++ [Path.deviceScriptSuffix]) || referenced.contains path then
      some .hostStub
    else none
  else none

end TwinNode
