import TwinNode.Rule

namespace TwinNode.Rule

/-- JSON artifacts have no syntax error. A broken locale bundle is only a warning. -/
def malformedJson (context : CheckContext) : List Finding :=
  context.package.artifacts.filterMap fun a =>
    a.syntaxError?.map fun e =>
      { path := a.path
        message := "Invalid JSON: " ++ e.problem.message
        location := e.position.location
        severity := if a.kind = .localeBundle then some .warning else none }

def missingParts (u : NodeUnit) : List Finding :=
  let noStub := match u.stub, u.device with
    | none, some device =>
      [{ path := Path.stubPath device.path
         message := "Host stub script is missing for device script " ++ device.path }]
    | _, _ => []
  let incomplete := if u.stub.isNone || !u.isDual then [] else
    (if u.device.isNone then
      [{ path := Path.child u.directory (u.stem ++ Path.deviceScriptSuffix)
         message :=
           "Device script is missing for node " ++ u.key ++ " which has a device manifest" }]
    else []) ++
    (if u.manifest.isNone then
      [{ path := Path.child u.directory manifestName
         message :=
           "Device manifest is missing for node " ++ u.key ++ " which has a device script" }]
    else [])
  noStub ++ incomplete

/-- The artifacts that every package and every node needs. -/
def mandatoryArtifacts (context : CheckContext) : List Finding :=
  let p := context.package
  (if p.descriptor?.isNone then
    [{ path := descriptorName, message := "Package descriptor package.json is missing" }]
  else []) ++
  p.units.flatMap missingParts ++
  (if (p.ofKind .hostStub).isEmpty && !p.units.any (·.device.isSome) then
    [{ path := ".", message := "Package contains no host stub script" }]
  else [])

/-- Each node with a stub has a locale bundle. -/
def localeBundles (context : CheckContext) : List Finding :=
  if context.settings.requireLocale then
    context.package.units.filterMap fun u =>
      match u.stub with
      | none => none
      | some stub =>
        if u.locales.isEmpty then
          some
            { path := stub.path
              message := "No locale bundle found for node " ++ u.key ++ "; expected " ++
                Path.child u.directory ("locales/<lang>/" ++ u.stem ++ ".json") }
        else none
  else []

end TwinNode.Rule
