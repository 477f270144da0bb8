import TwinNode.Settings
import TwinNode.Json.Value
import TwinNode.Text.Blank

/-! How the members of an object become settings is left open. A reader takes them, or it
refuses them and says why; some settings have a test of their own, which a value that is
taken has been through. -/

namespace TwinNode

open TwinNode.Json (Value)

/-- What is wrong with a value. -/
inductive SettingProblem where
  | notSection
  | notList
  | notString
  /-- A string with half of a character. -/
  | notText
  | notBool
  | unreadableBool
  | notInteger
  | unreadableInteger
  | fraction
  | notFinite
  | integerSize
  | unknownChoice
  | unknownKey
  /-- A suffix without a point. -/
  | badSuffix (suffix : String)
  /-- A module name without characters. -/
  | emptyModule
  | noWorker
  deriving DecidableEq, Repr

/-- The text of a problem that a value of the right kind has. -/
def SettingProblem.message? : SettingProblem → Option String
  | badSuffix suffix => some ("script suffix must start with '.', got: " ++ suffix)
  | emptyModule => some "deviceModule must not be empty"
  | noWorker => some "max_workers must be >= 1"
  | _ => none

/-- Suffixes have to begin with a point. -/
def checkSuffixes (suffixes : List String) : Except SettingProblem (List String) :=
  match suffixes.find? fun s => s.toList.head? != some '.' with
  | some suffix => .error (.badSuffix suffix)
  | none => .ok suffixes

/-- A module name counts without outer blanks, and something has to be left of it. -/
def checkModule (name : String) : Except SettingProblem String :=
  let trimmed := Text.trim name.toList
  if trimmed.isEmpty then .error .emptyModule else .ok (String.ofList trimmed)

/-- At least one worker is needed. -/
def checkWorkers (n : Int) : Except SettingProblem Int :=
  if n < 1 then .error .noWorker else .ok n

/-- A problem, the keys that lead to it and the value that has it. -/
structure SettingIssue where
  keys : List String
  problem : SettingProblem
  shown : String
  deriving DecidableEq, Repr

/-- What is said about members that are no settings. -/
structure Refusal where
  text : String
  issues : List SettingIssue
  deriving DecidableEq, Repr

/-- Why a reader gives no settings. -/
inductive ReaderFault where
  | refused (r : Refusal)
  /-- The reader breaks off without a word on the members. -/
  | broken
  deriving DecidableEq, Repr

abbrev SettingsReader := List (String × Value) → Except ReaderFault Settings

/-- A setting has its default, or it is what its test made of a value. -/
def Tested (test : α → Except SettingProblem α) (default a : α) : Prop :=
  a = default ∨ ∃ given, test given = .ok a

/-- What is relied on: whatever a reader does not take it refuses, and settings with a test have
been through it. -/
structure SettingsReader.Lawful (reader : SettingsReader) : Prop where
  refuses : ∀ members, reader members ≠ .error .broken
  suffixes : ∀ members settings, reader members = .ok settings →
    Tested checkSuffixes ({} : RuleSettings).scriptSuffixes settings.rules.scriptSuffixes
  deviceModule : ∀ members settings, reader members = .ok settings →
    Tested checkModule ({} : RuleSettings).deviceModule settings.rules.deviceModule
  workers : ∀ members settings, reader members = .ok settings →
    Tested checkWorkers ({} : Settings).maxWorkers settings.maxWorkers

end TwinNode
