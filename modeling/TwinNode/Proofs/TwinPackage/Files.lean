import TwinNode.Json.Printer
import TwinNode.Package.Discovery
import TwinNode.Proofs.Script.Shows
import TwinNode.Proofs.Text.Encoding
import TwinNode.Proofs.Text.PlainName

/-! The six files of a package with one node that runs on a host and on a device. Where the
node stands and what it is called is open, and so is the type name that each file gives it.
-/

namespace TwinNode

open TwinNode.Json (Value)
open TwinNode.Script (Part)
open TwinNode.Text (PlainName encode)

/-- Directories that default settings leave out, and the one that makes a file a locale bundle. -/
def reservedDirectories : List String := ["node_modules", "test", "tests", "examples", "locales"]

/-- A node for host and device: its directory and its stem, the type names in stub, device script
and markup, and its key in the descriptor. -/
structure TwinPackage where
  directories : List String
  stem : String
  stubType : String
  deviceType : String
  markupType : String
  key : String
  directories_nonempty : directories ≠ []
  directories_plain : ∀ d ∈ directories, PlainName d ∧ d ∉ reservedDirectories
  stem_plain : PlainName stem
  stubType_plain : PlainName stubType
  deviceType_plain : PlainName deviceType
  markupType_plain : PlainName markupType
  key_plain : PlainName key

def stubParts (name : String) : List Part := [
  .plain "module.exports = function (RED) \x7b\n".toList,
  .plain "    function FooNode(config) \x7b\n".toList,
  .plain "        RED.nodes.createNode(this, config);\n".toList,
  .plain "    \x7d\n".toList,
  .plain "    RED.nodes.registerType(".toList, .string name.toList, .plain ", FooNode);\n".toList,
  .plain "\x7d;\n".toList]

def deviceParts (name : String) : List Part := [
  .plain "import \x7bNode\x7d from ".toList, .string "nodered".toList, .plain ";\n".toList,
  .plain "\n".toList,
  .plain "class FooNode extends Node \x7b\n".toList,
  .plain "    static type = ".toList, .string name.toList, .plain ";\n".toList,
  .plain "    static \x7b\n".toList,
  .plain "        RED.nodes.registerType(this.type, this);\n".toList,
  .plain "    \x7d\n".toList,
  .plain "\n".toList,
  .plain "    onStart(config) \x7b\n".toList,
  .plain "        super.onStart(config);\n".toList,
  .plain "    \x7d\n".toList,
  .plain "\x7d\n".toList]

def editorParts (name : String) : List Part := [
  .plain "\n".toList,
  .plain "    RED.nodes.registerType(".toList, .string name.toList, .plain ", \x7b\n".toList,
  .plain "        category: ".toList, .string "function".toList, .plain ",\n".toList,
  .plain "        defaults: \x7b\n".toList,
  .plain "            name: \x7bvalue: ".toList, .string [], .plain "\x7d,\n".toList,
  .plain "            moddable_manifest: \x7bvalue: \x7binclude: ".toList,
    .string "manifest.json".toList,
  .plain "\x7d\x7d\n".toList,
  .plain "        \x7d,\n".toList,
  .plain "        inputs: 1,\n".toList,
  .plain "        outputs: 1,\n".toList,
  .plain "        label: function () \x7b return this.name || ".toList, .string "foo".toList,
  .plain "; \x7d\n".toList,
  .plain "    \x7d);\n".toList]

def scriptBlock (attributes body : List Char) : List Char :=
  "<script".toList ++ attributes ++ '>' :: (body ++ "</script>".toList)

def templateBody : List Char :=
  "\n".toList ++
    "    <div class=\x22form-row\x22>\n".toList ++
    "        <label for=\x22node-input-name\x22>Name</label>\n".toList ++
    "        <input type=\x22text\x22 id=\x22node-input-name\x22>\n".toList ++
    "    </div>\n".toList

def helpBody : List Char :=
  "\n".toList ++ "    <p>Sends a message.</p>\n".toList

def nameAttribute (attr name : String) : List Char :=
  attr.toList ++ '=' :: '\x22' :: (name.toList ++ ['\x22'])

/-- A block that is no script but carries the name of a node. -/
def namedBlock (attr name : String) (body : List Char) : List Char :=
  scriptBlock (" type=\x22text/html\x22 ".toList ++ nameAttribute attr name) body

def markupAround (script : List Char) (name : String) : List Char :=
  scriptBlock " type=\x22text/javascript\x22".toList script ++
    '\n' :: '\n' :: (namedBlock "data-template-name" name templateBody ++
      '\n' :: '\n' :: (namedBlock "data-help-name" name helpBody ++ ['\n']))

namespace TwinPackage

variable (p : TwinPackage)

def stubText : List Char := (stubParts p.stubType).flatMap Part.source

def deviceText : List Char := (deviceParts p.deviceType).flatMap Part.source

def markupText : List Char :=
  markupAround ((editorParts p.markupType).flatMap Part.source) p.markupType

def directory : String := Path.join p.directories

/-- The names on the way to a file of the node. -/
def fileNames (suffix : String) : List String := p.directories ++ [p.stem ++ suffix]

def stubPath : String := Path.join (p.fileNames ".js")

def devicePath : String := Path.join (p.fileNames ".mcu.js")

def markupPath : String := Path.join (p.fileNames ".html")

def manifestNames : List String := p.directories ++ ["manifest.json"]

def localeNames : List String := p.directories ++ ["locales", "en-US", p.stem ++ ".json"]

def manifestValue : Value :=
  .object [("modules", .object [("*", .str "./foo")]), ("preload", .str "foo")]

def localeValue : Value :=
  .object [("foo", .object [("label", .object [("name", .str "Name")])])]

def descriptorValue : Value :=
  .object [("name", .str "node-red-contrib-foo"), ("version", .str "1.0.0"),
    ("node-red", .object [("nodes", .object [(p.key, .str p.stubPath)])])]

/-- The files of the package: the names on the way from its root, and the text. -/
def files : List (List String × List Char) := [
  (p.fileNames ".js", p.stubText),
  (p.fileNames ".mcu.js", p.deviceText),
  (p.fileNames ".html", p.markupText),
  (p.manifestNames, manifestValue.pretty.toList),
  (p.localeNames, localeValue.pretty.toList),
  (["package.json"], p.descriptorValue.pretty.toList)]

def stub : Artifact := ⟨.hostStub, p.stubPath, p.stubText, .scanned (Script.views p.stubText)⟩

def device : Artifact :=
  ⟨.deviceScript, p.devicePath, p.deviceText, .scanned (Script.views p.deviceText)⟩

def markup : Artifact :=
  ⟨.editorMarkup, p.markupPath, p.markupText, .scanned (Markup.views p.markupText)⟩

def manifest : Artifact :=
  ⟨.manifest, Path.join p.manifestNames, manifestValue.pretty.toList, .json manifestValue⟩

def locale : Artifact :=
  ⟨.localeBundle, Path.join p.localeNames, localeValue.pretty.toList, .json localeValue⟩

def descriptor : Artifact :=
  ⟨.descriptor, descriptorName, p.descriptorValue.pretty.toList, .json p.descriptorValue⟩

/-- The artifacts of the package, the descriptor apart. -/
def parts : List Artifact := [p.stub, p.device, p.markup, p.manifest, p.locale]

/-- A directory of a file system holds the files of the package and no others: they are all there is
below it, each can be read there, and there is room for the three objects inside one another. -/
structure StoredIn (fs : FileSystem) (place : Place) : Prop where
  below : (fs.filesBelow place).Perm (p.files.map (·.1))
  readable : ∀ file ∈ p.files,
    fs.read ((Path.Location.mk .top place).append (Path.join file.1)) = .ok (encode file.2)
  room : 3 ≤ fs.room

end TwinPackage

end TwinNode
