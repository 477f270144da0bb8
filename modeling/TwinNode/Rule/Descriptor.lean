import TwinNode.Declaration.Extraction
import TwinNode.Rule

namespace TwinNode.Rule

/-- What is wrong with one entry of the node map. -/
def registrationFault? (p : Package) (descriptor : String) (key : String) (value : Json.Value) :
    Option Finding :=
  let fault := fun message : String =>
    some { path := descriptor, message, location := some (registrationLocation key) : Finding }
  match value.str? with
  | none => fault ("Node \"" ++ key ++ "\" registration must be a relative path string")
  | some written =>
    let reference := Path.normalizeReference written
    if Path.hasSuffix Path.deviceScriptSuffix reference then
      fault ("Node \"" ++ key ++ "\" references device script \"" ++ reference ++
        "\"; the descriptor must reference the stub path \"" ++
          Path.stubPath reference ++ "\" instead")
    else
      match p.get? reference with
      | none => fault ("Node \"" ++ key ++ "\" references missing file \"" ++ reference ++ "\"")
      | some target =>
        if target.kind = .hostStub then none
        else
          fault ("Node \"" ++ key ++ "\" references \"" ++ reference ++ "\" which is a " ++
            target.kind.label ++ ", not a host stub")

/-- The stub that an entry of the node map registers: the one next to a device script it names, or
the one it names itself. -/
def registeredStub? (p : Package) (value : Json.Value) : Option String :=
  value.str?.bind fun written =>
    let reference := Path.normalizeReference written
    if Path.hasSuffix Path.deviceScriptSuffix reference then some (Path.stubPath reference)
    else if (p.get? reference).any (·.kind = .hostStub) then some reference
    else none

/-- The faults of a descriptor with the given node map. -/
def registrationFaults (p : Package) (descriptor : String) (nodes : List (String × Json.Value)) :
    List Finding :=
  nodes.filterMap (fun entry => registrationFault? p descriptor entry.1 entry.2) ++
    (let registered := nodes.filterMap fun entry => registeredStub? p entry.2
    ((p.ofKind .hostStub).filter fun stub => !registered.contains stub.path).map fun stub =>
      { path := stub.path
        message := "Host stub is not registered in package.json node-red.nodes"
        severity := some .warning })

/-- The node map of the descriptor names host stubs, all of them and nothing else. -/
def descriptorPointsToStub (context : CheckContext) : List Finding :=
  match context.package.descriptor? with
  | none => []
  | some descriptor =>
    if !descriptor.isParsed then []
    else
      match context.facts.shape descriptor.path .descriptorNodeMapShape with
      | .missing =>
        [{ path := descriptor.path
           message := "Descriptor declares no node-red.nodes registration map"
           location := some nodeMapLocation }]
      | .object => registrationFaults context.package descriptor.path descriptor.registrations
      | _ =>
        [{ path := descriptor.path
           message := "Descriptor node-red.nodes must be a JSON object"
           location := some nodeMapLocation }]

end TwinNode.Rule
