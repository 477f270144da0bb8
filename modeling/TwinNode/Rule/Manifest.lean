import TwinNode.Rule

namespace TwinNode.Rule

/-- `modules` is an object if it is there. -/
def moduleFormat (context : CheckContext) : List Finding :=
  ((context.package.ofKind .manifest).filter (·.isParsed)).filterMap fun a =>
    let shape := context.facts.shape a.path .manifestModulesShape
    if shape = .invalid ∧ ¬(a.json?.any (·.isObject)) then
      some { path := a.path, message := "Device manifest must be a JSON object" }
    else if shape ≠ .missing ∧ shape ≠ .object then
      some
        { path := a.path
          message := "Device manifest 'modules' must be a JSON object, found " ++ shape.label
          location := some "modules" }
    else none

/-- Module paths have no script suffix. -/
def noExtension (context : CheckContext) : List Finding :=
  context.facts.facts.filterMap fun f =>
    match f.name, f.value with
    | .manifestPathHasJsExtension, .text written =>
      some
        { path := f.path
          message := "Module path \"" ++ written ++ "\" must not include a script file extension"
          location := f.location }
    | _, _ => none

/-- `preload` is a string if it is there. -/
def preloadIsString (context : CheckContext) : List Finding :=
  (context.package.ofKind .manifest).filterMap fun a =>
    let shape := context.facts.shape a.path .manifestPreloadShape
    if shape ≠ .missing ∧ shape ≠ .string then
      some
        { path := a.path
          message := "Device manifest 'preload' must be a string, found " ++ shape.label
          location := some "preload" }
    else none

end TwinNode.Rule
