import TwinNode.Rule.Descriptor
import TwinNode.Rule.Identity
import TwinNode.Rule.Manifest
import TwinNode.Rule.Presence
import TwinNode.Rule.Script

namespace TwinNode.Rule

/-- A check that never breaks off. -/
def total (findings : CheckContext → List Finding) : Check := fun context => .ok (findings context)

/-- All rules, in the order in which they run. -/
def catalog : List Rule := [
  { id := "J1"
    name := "malformed-json"
    appliesTo := [.descriptor, .manifest, .localeBundle]
    kind := .malformedJson
    severity := .error
    summary := "JSON artifacts must be syntactically valid"
    hint := "Fix the JSON syntax error at the reported line and column."
    check := total malformedJson },
  { id := "P1"
    name := "mandatory-artifact"
    appliesTo := [.descriptor, .hostStub, .deviceScript, .manifest]
    kind := .missingArtifact
    severity := .error
    summary :=
      "Descriptor and host stub are required; MCU nodes also need device script and manifest"
    hint := "Add the missing file next to the node's other files."
    check := total mandatoryArtifacts },
  { id := "P2"
    name := "locale-bundle"
    appliesTo := [.localeBundle]
    kind := .missingArtifact
    severity := .warning
    summary := "Each node should ship a locale bundle"
    hint := "Add locales/<lang>/<node>.json next to the node for translated labels."
    check := total localeBundles },
  { id := "R1"
    name := "module-format"
    appliesTo := [.manifest]
    kind := .structuralViolation
    severity := .error
    summary := "Device manifest 'modules' must be an object, never an array"
    hint := "Write modules as an object mapping module names to paths."
    check := total moduleFormat },
  { id := "R2"
    name := "no-extension"
    appliesTo := [.manifest]
    kind := .structuralViolation
    severity := .error
    summary := "Device manifest module paths must not end in a script suffix"
    hint := "Drop the .js extension from the module path."
    check := total noExtension },
  { id := "R3"
    name := "preload-is-string"
    appliesTo := [.manifest]
    kind := .structuralViolation
    severity := .error
    summary := "Device manifest 'preload' must be a string, never an array"
    hint := "Write preload as a single module name string."
    check := total preloadIsString },
  { id := "R4"
    name := "descriptor-points-to-stub"
    appliesTo := [.descriptor]
    kind := .identityMismatch
    severity := .error
    summary := "package.json node registrations must reference host stubs, not device scripts"
    hint := "Point node-red.nodes entries at the CommonJS stub (foo.js), not foo.mcu.js."
    check := total descriptorPointsToStub },
  { id := "R5"
    name := "stub-is-commonjs"
    appliesTo := [.hostStub]
    kind := .structuralViolation
    severity := .error
    summary := "Host stub must be CommonJS and must not use the device-only module"
    hint := "Use require() and module.exports in the stub; keep device imports in the .mcu.js file."
    check := total stubIsCommonJs },
  { id := "R6"
    name := "device-no-default-export"
    appliesTo := [.deviceScript]
    kind := .structuralViolation
    severity := .error
    summary := "Device script must not use a default export"
    hint := "Remove 'export default'; the node registers itself from a static block."
    check := total deviceNoDefaultExport },
  { id := "R7"
    name := "device-has-static-registration"
    appliesTo := [.deviceScript]
    kind := .structuralViolation
    severity := .error
    summary := "Device script must register itself from a static initialization block"
    hint := "Add 'static \x7b RED.nodes.registerType(this.type, this); \x7d' to the node class."
    check := total deviceStaticRegistration },
  { id := "R8"
    name := "identity-consistency"
    appliesTo := [.hostStub, .deviceScript, .editorMarkup, .descriptor]
    kind := .identityMismatch
    severity := .error
    summary := "The node type name must be identical in every file that declares it"
    hint :=
      "Use the exact same type string in the stub, device script, editor markup and package.json."
    check := total identityConsistency },
  { id := "R9"
    name := "markup-includes-manifest"
    appliesTo := [.editorMarkup]
    kind := .structuralViolation
    severity := .error
    summary := "Editor markup of an MCU node must declare the device manifest inclusion"
    hint :=
      "Add moddable_manifest: \x7bvalue: \x7binclude: \"manifest.json\"\x7d\x7d to the node defaults."
    check := total markupIncludesManifest }]

def find? (id : String) : Option Rule := catalog.find? (sameId ·.id id)

def enabled (disabled : List String) : List Rule :=
  catalog.filter fun r => !disabled.any (sameId r.id)

end TwinNode.Rule
