import TwinNode.Rule

namespace TwinNode.Rule

/-- A host stub imports nothing and does not use the module of devices. -/
def stubIsCommonJs (context : CheckContext) : List Finding :=
  (context.package.ofKind .hostStub).flatMap fun stub =>
    let found := fun (name : FactName) (message : String) =>
      ((context.facts.fact? stub.path name).filter (·.value == .flag true)).toList.map fun fact =>
        { path := stub.path, message, location := fact.location : Finding }
    found .usesImportStatement "Host stub must be CommonJS but contains an import statement" ++
      found .referencesDeviceModule
        ("Host stub references device-only module \"" ++ context.settings.deviceModule ++ "\"")

/-- A device script has no default export. -/
def deviceNoDefaultExport (context : CheckContext) : List Finding :=
  (context.package.ofKind .deviceScript).flatMap fun device =>
    ((context.facts.fact? device.path .usesDefaultExport).filter (·.value == .flag true)).toList.map
      fun fact =>
        { path := device.path
          message := "Device script must not use a default export"
          location := fact.location }

/-- A device script registers itself in a static block. -/
def deviceStaticRegistration (context : CheckContext) : List Finding :=
  ((context.package.ofKind .deviceScript).filter fun device =>
    !context.facts.holds device.path .hasStaticRegistration).map fun device =>
      { path := device.path
        message := "Device script has no static initialization block calling registerType()" }

/-- The markup of a node for devices includes the device manifest. -/
def markupIncludesManifest (context : CheckContext) : List Finding :=
  context.package.units.filterMap fun u =>
    match u.markup with
    | none => none
    | some markup =>
      if u.isDual && markup.isParsed && !context.facts.holds markup.path
        .declaresManifestInclude then
        some
          { path := markup.path
            message := "Editor markup of MCU node " ++ u.key ++ " does not declare " ++
              context.settings.manifestMarker }
      else none

end TwinNode.Rule
