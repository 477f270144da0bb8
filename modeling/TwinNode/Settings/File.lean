import TwinNode.FileSystem
import TwinNode.Json.Reader
import TwinNode.Settings.Reader
import TwinNode.Text.Utf8

/-! The settings come from the file that the user names, or else from the nearest settings
file in the working directory or above it, or else they are the defaults. -/

namespace TwinNode

def settingsFileName : String := ".nodelint.json"

/-- Why a settings file cannot be used. -/
inductive SettingsError where
  | missing (path : String)
  | unreadable (path : String) (error : AccessError)
  | malformed (path : String) (error : Json.SyntaxError)
  | notObject (path : String)
  | invalid (path : String) (refusal : Refusal)
  /-- Taking the settings broke off. -/
  | broken
  /-- The file is no valid text. -/
  | notUtf8
  | excess (e : Json.Excess)
  | nameTooLong
  /-- The search was to begin at a path with a NUL. -/
  | nulInPath
  deriving DecidableEq, Repr

namespace SettingsError

/-- What is wrong, for the faults that are reported to the user. -/
def message? : SettingsError → Option String
  | missing path => some ("Config file not found: " ++ path)
  | unreadable path error =>
    some ("Failed to read config file " ++ path ++ ": " ++ error.message path)
  | malformed path error =>
    some ("Invalid JSON in config file " ++ path ++ ": " ++ error.problem.message ++ ": line " ++
      toString error.line ++ " column " ++ toString error.column ++ " (char " ++
        toString error.offset ++ ")")
  | notObject path => some ("Config file " ++ path ++ " must contain a JSON object")
  | invalid path _ => some ("Invalid configuration in " ++ path)
  | broken => none
  | notUtf8 => none
  | excess _ => none
  | nameTooLong => none
  | nulInPath => none

/-- What is wrong in full, for the faults that are reported to the user. -/
def complaint? (e : SettingsError) : Option String :=
  e.message?.map fun message =>
    match e with
    | invalid _ refusal => message ++ ": " ++ refusal.text
    | _ => message

end SettingsError

/-- The settings that the content of a file gives; `path` names the file in messages. -/
def Settings.ofBytes (reader : SettingsReader) (room : Nat) (path : String) (bytes : Bytes) :
    Except SettingsError Settings :=
  match Text.readTextStrict? bytes with
  | none => .error .notUtf8
  | some text =>
    match Json.read room text with
    | .error (.excess e) => .error (.excess e)
    | .error (.malformed e) => .error (.malformed path e)
    | .ok v =>
      match v.members? with
      | none => .error (.notObject path)
      | some members =>
        match reader members with
        | .ok settings => .ok settings
        | .error (.refused refusal) => .error (.invalid path refusal)
        | .error .broken => .error .broken

/-- A place and the directories above it, nearest first. -/
def upwards (p : Place) : List Place :=
  (List.range (p.length + 1)).reverse.map p.take

/-- The first of some places at which a file is. -/
def firstFile? (fs : FileSystem) : List Place → Except LookupFault (Option Place)
  | [] => .ok none
  | p :: ps => do if ← fs.holdsFile ⟨.top, p⟩ then return some p else firstFile? fs ps

/-- The places of settings files in a directory and above it. -/
def settingsPlaces (p : Place) : List Place := (upwards p).map (· ++ [settingsFileName])

/-- The nearest settings file in a directory or above it; in the working directory if none is
given. -/
def findSettingsFile? (fs : FileSystem) (start : Option Path.Location) :
    Except SettingsError (Option Place) :=
  if start.any (·.text.toList.contains '\x00') then .error .nulInPath
  else
    let place := (start.map fs.resolve).getD fs.workingDirectory
    (firstFile? fs (settingsPlaces place)).mapError fun _ => .nameTooLong

def readSettings (reader : SettingsReader) (fs : FileSystem) (l : Path.Location) :
    Except SettingsError Settings :=
  match fs.read l with
  | .error e => .error (.unreadable l.text e)
  | .ok bytes => Settings.ofBytes reader fs.room l.text bytes

/-- The settings from the file the user names, or from the nearest one to `start`. -/
def loadSettings (reader : SettingsReader) (fs : FileSystem) (named start : Option Path.Location) :
    Except SettingsError Settings :=
  match named with
  | some l =>
    match fs.holds l with
    | .error .nameTooLong => .error .nameTooLong
    | .ok false => .error (.missing l.text)
    | .ok true => readSettings reader fs l
  | none => do
    match ← findSettingsFile? fs start with
    | none => return {}
    | some p => readSettings reader fs ⟨.top, p⟩

end TwinNode
