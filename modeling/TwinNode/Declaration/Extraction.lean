import TwinNode.Declaration
import TwinNode.Package.Discovery
import TwinNode.Scan.Phrase
import TwinNode.Settings

/-! Scripts and markup are searched for phrases in their skeletons; JSON is read along known
keys. Files with syntax errors declare nothing. -/

namespace TwinNode

open TwinNode.Json (Value)

namespace Views

/-- The type names that are written as literals right after occurrences of a phrase. -/
def declaredAfter (v : Views) (path : String) (role : IdentityRole) (occurrences : List Span) :
    List Identity :=
  occurrences.filterMap fun o =>
    (v.literalAfter? o.stop).map fun value => ⟨path, role, String.ofList value, v.location o.start⟩

/-- The form of the type names after occurrences of a phrase: one literal is enough. -/
def formAfter (v : Views) (occurrences : List Span) : Form :=
  if occurrences.isEmpty then .missing
  else if occurrences.any fun o => (v.literalAfter? o.stop).isSome then .literal
  else .dynamic

/-- The calls that register a type, and whether they name it. -/
def registrations (v : Views) (path : String) (calls : List Span) : FactSet where
  identities := v.declaredAfter path .registrationCall calls
  facts := [⟨path, .registrationCall, .form (v.formAfter calls), none⟩]

/-- The fact that something occurs, at its first place if it does. -/
def presence (v : Views) (path : String) (name : FactName) (place : Option Nat) : FactSet :=
  ⟨[], [⟨path, name, .flag place.isSome, place.map v.location⟩]⟩

/-- The places of literals that name a module to load. -/
def modulePlaces (v : Views) : List Nat :=
  (v.find .moduleCall ++ v.find .moduleFrom).map (·.stop)

/-- The first place that names the given module. -/
def modulePlace? (v : Views) (name : String) : Option Nat :=
  (v.modulePlaces.filter fun o => Text.trim ((v.literal? o).getD []) == name.toList).min?

/-- The first static block with a registering call between its braces. -/
def staticRegistration? (v : Views) : Option Nat :=
  ((v.find .staticBlock).find? fun block =>
    match matchingBrace? v.skeleton (block.stop - 1) with
    | none => false
    | some close => !(v.findIn .registerCall ⟨block.stop - 1, close⟩).isEmpty).map (·.start)

/-- The type names in attributes outside of script blocks. -/
def attributeIdentities (v : Views) (path : String) (role : IdentityRole) (p : Phrase)
    (scripts : List Span) : List Identity :=
  ((v.find p).filter fun o => !scripts.any (·.contains o.start)).map fun o =>
    ⟨path, role, String.ofList (Text.trim (Phrase.attributeValue (o.slice v.skeleton))),
      v.location o.start⟩

end Views

def stubDeclarations (settings : RuleSettings) (path : String) (v : Views) : FactSet :=
  v.registrations path (v.find .registerCall) ++
    v.presence path .usesImportStatement ((v.find .importStatement).head?.map (·.start)) ++
    v.presence path .referencesDeviceModule (v.modulePlace? settings.deviceModule)

def deviceDeclarations (path : String) (v : Views) : FactSet :=
  let fields := v.find .staticType
  ⟨v.declaredAfter path .staticField fields,
    [⟨path, .staticTypeField, .form (v.formAfter fields), none⟩]⟩ ++
    v.registrations path (v.find .registerCall) ++
    v.presence path .usesDefaultExport ((v.find .defaultExport).head?.map (·.start)) ++
    v.presence path .hasStaticRegistration v.staticRegistration?

def markupDeclarations (settings : RuleSettings) (path : String) (v : Views) : FactSet :=
  let scripts := v.javaScriptSpans
  let calls := (v.find .registerCall).filter fun o => scripts.any (·.contains o.start)
  v.registrations path calls ++
    ⟨v.attributeIdentities path .templateName .templateName scripts ++
      v.attributeIdentities path .helpName .helpName scripts, []⟩ ++
    v.presence path .declaresManifestInclude
      (scripts.findSome? (findMarker? settings.manifestMarker.toList v.code))

def Shape.of : Option Value → Shape
  | none => missing
  | some (.object _) => object
  | some (.list _) => array
  | some (.str _) => string
  | some _ => invalid

/-- Whether a module path ends in one of the script suffixes. -/
def hasScriptSuffix (settings : RuleSettings) (path : String) : Bool :=
  settings.scriptSuffixes.any fun suffix =>
    (Text.lower suffix.toList).isSuffixOf (Text.lower (Text.trim path.toList))

/-- The module paths among the values of one module. -/
def modulePaths : Value → List String
  | .list items => items.filterMap Value.str?
  | v => v.str?.toList

/-- The modules of a manifest whose paths have a script suffix, by name. -/
def suffixedModules (settings : RuleSettings) (path : String) (modules : List (String × Value)) :
    List Fact :=
  (modules.mergeSort fun a b => a.1 ≤ b.1).flatMap fun entry =>
    ((modulePaths entry.2).filter (hasScriptSuffix settings)).map fun written =>
      ⟨path, .manifestPathHasJsExtension, .text written, some ("modules." ++ entry.1)⟩

def manifestDeclarations (settings : RuleSettings) (path : String) (v : Value) : FactSet :=
  match v.members? with
  | none => ⟨[], [⟨path, .manifestModulesShape, .shape .invalid, none⟩]⟩
  | some _ =>
    let modules := v.member? "modules"
    ⟨[], [⟨path, .manifestModulesShape, .shape (Shape.of modules), some "modules"⟩] ++
      suffixedModules settings path ((modules.bind Value.members?).getD []) ++
      [⟨path, .manifestPreloadShape, .shape (Shape.of (v.member? "preload")), some "preload"⟩]⟩

def nodeMapLocation : String := "node-red.nodes"

def registrationLocation (key : String) : String := nodeMapLocation ++ "." ++ key

def nodeMapShape (descriptor : Value) : Shape :=
  match registrations? descriptor with
  | some _ => .object
  | none =>
    if ((descriptor.member? "node-red").bind (·.member? "nodes")).isSome then .invalid else .missing

def descriptorDeclarations (path : String) (v : Value) : FactSet where
  identities := ((registrations? v).getD []).map fun entry =>
    ⟨path, .descriptorKey, String.ofList (Text.trim entry.1.toList), registrationLocation entry.1⟩
  facts := [⟨path, .descriptorNodeMapShape, .shape (nodeMapShape v), some nodeMapLocation⟩]

def Artifact.declarations (settings : RuleSettings) (a : Artifact) : FactSet :=
  match a.kind, a.content with
  | .hostStub, .scanned v => stubDeclarations settings a.path v
  | .deviceScript, .scanned v => deviceDeclarations a.path v
  | .editorMarkup, .scanned v => markupDeclarations settings a.path v
  | .manifest, .json v => manifestDeclarations settings a.path v
  | .descriptor, .json v => descriptorDeclarations a.path v
  | _, _ => .empty

/-- The declarations of a package, in the order of its artifacts. -/
def Package.declarations (settings : RuleSettings) (p : Package) : FactSet :=
  p.artifacts.foldl (fun known a => known ++ a.declarations settings) .empty

end TwinNode
