import TwinNode.Json.Binary
import TwinNode.Settings.Reader
import TwinNode.Settings.Shown
import TwinNode.Text.Integer

/-! A settings file is an object with a section for each group of settings. A setting that
is absent has its default. Values of a near kind are taken as well: `1` or `"yes"` as true,
`"7"` or `7.0` as a number. Every value that cannot be taken is reported with the keys that
lead to it. -/

namespace TwinNode

open TwinNode.Json (Value)

namespace SettingProblem

def label : SettingProblem → String
  | notSection => "model_type"
  | notList => "list_type"
  | notString => "string_type"
  | notText => "string_unicode"
  | notBool => "bool_type"
  | unreadableBool => "bool_parsing"
  | notInteger => "int_type"
  | unreadableInteger => "int_parsing"
  | fraction => "int_from_float"
  | notFinite => "finite_number"
  | integerSize => "int_parsing_size"
  | unknownChoice => "enum"
  | unknownKey => "extra_forbidden"
  | badSuffix _ => "value_error"
  | emptyModule => "value_error"
  | noWorker => "value_error"

end SettingProblem

/-- An issue with a value. -/
def SettingIssue.ofValue (keys : List String) (v : Value) (problem : SettingProblem) :
    SettingIssue :=
  ⟨keys, problem, shownValue v⟩

/-- The issue as messages describe it: the keys, what is wrong with the value, and where to look for
more. -/
def SettingIssue.text (i : SettingIssue) : String :=
  String.intercalate "." i.keys ++ "\n  " ++
    (i.problem.message?.getD "The value cannot be taken") ++ " [type=" ++ i.problem.label ++ ", " ++
      i.shown ++ "]\n    For further information see " ++ i.problem.label

/-- A value, or everything that is wrong with what was given. -/
inductive Decoded (α : Type) where
  | ok (a : α)
  | invalid (issues : List SettingIssue)
  deriving Repr

def Decoded.ofTest (keys : List String) (v : Value) : Except SettingProblem α → Decoded α
  | .ok a => ok a
  | .error problem => invalid [.ofValue keys v problem]

/-- Two values are taken together; if something is wrong with both, all of it is reported. -/
instance : Applicative Decoded where
  pure := .ok
  seq f x :=
    match f, x () with
    | .ok f, .ok a => .ok (f a)
    | .ok _, .invalid issues => .invalid issues
    | .invalid issues, .ok _ => .invalid issues
    | .invalid issues, .invalid more => .invalid (issues ++ more)

/-- A reader of a value that was found under the given keys. -/
abbrev Decoder (α : Type) := List String → Value → Decoded α

namespace Decoder

/-- A reader that looks at the value itself only. -/
def ofTest (test : Value → Except SettingProblem α) : Decoder α :=
  fun keys v => .ofTest keys v (test v)

def string : Decoder String := ofTest fun v =>
  match v with
  | .str s => .ok s
  | _ => .error .notString

/-- The items of a list of strings, the first of which has the given index. -/
def stringItems (keys : List String) (index : Nat) : List Value → Decoded (List String)
  | [] => .ok []
  | v :: vs =>
    List.cons <$> string (keys ++ [toString index]) v <*> stringItems keys (index + 1) vs

def strings : Decoder (List String) := fun keys v =>
  match v with
  | .list items => stringItems keys 0 items
  | _ => .ofTest keys v (.error .notList)

/-- The words for true and false, whatever their case. -/
def boolOfWord? (word : String) : Option Bool :=
  let small := String.ofList (word.toList.map Char.toLower)
  if ["1", "true", "t", "yes", "y", "on"].contains small then some true
  else if ["0", "false", "f", "no", "n", "off"].contains small then some false
  else none

/-- Whether an integer fits into 64 bits with a sign. -/
def isWord (n : Int) : Bool := -Json.twoTo 63 ≤ n && n < Json.twoTo 63

/-- The truth value that an integer stands for. -/
def boolOfInteger (n : Int) : Except SettingProblem Bool :=
  if n = 1 then .ok true
  else if n = 0 then .ok false
  else if isWord n then .error .unreadableBool
  else .error .notBool

/-- The integer that a number stands for. -/
def integerOfReal (x : Json.Real) : Except SettingProblem Int :=
  match x.rounded with
  | .finite significand exponent =>
    match (Json.Rounded.finite significand exponent).integer? with
    | some n => if n.natAbs < Json.twoTo 63 then .ok n else .error .integerSize
    | none => .error .fraction
  | _ => .error .notFinite

def wholeText (s : String) : Except SettingProblem String :=
  if Text.hasHalf s then .error .notText else .ok s

def bool : Decoder Bool := ofTest fun v =>
  match v with
  | .bool b => .ok b
  | .int n => boolOfInteger n
  | .real x =>
    match integerOfReal x with
    | .ok n => boolOfInteger n
    | .error _ => .error .notBool
  | .str s => (wholeText s).bind fun word => (boolOfWord? word).elim (.error .unreadableBool) .ok
  | _ => .error .notBool

/-- The integer that a text writes. -/
def integerOfText (text : String) : Except SettingProblem Int :=
  (Text.readInteger text).mapError fun fault =>
    match fault with
    | .malformed => .unreadableInteger
    | .tooLong => .integerSize

def integer : Decoder Int := ofTest fun v =>
  match v with
  | .int n => .ok n
  | .bool b => .ok (if b then 1 else 0)
  | .real x => integerOfReal x
  | .str s => (wholeText s).bind integerOfText
  | _ => .error .notInteger

/-- One of a fixed set of names. -/
def choice (ofLabel? : String → Option α) : Decoder α := ofTest fun v =>
  match v with
  | .str s => (wholeText s).bind fun name => (ofLabel? name).elim (.error .unknownChoice) .ok
  | _ => .error .unknownChoice

/-- A value that has to pass a test, and may be changed by it. -/
def checked (d : Decoder α) (test : α → Except SettingProblem α) : Decoder α := fun keys v =>
  match d keys v with
  | .ok a => .ofTest keys v (test a)
  | .invalid issues => .invalid issues

/-- A setting of a section: the first of its keys that is there gives the value. -/
def setting (names : List String) (default : α) (d : Decoder α) : Decoder α := fun keys section_ =>
  match names.findSome? fun name => (section_.member? name).map (name, ·) with
  | some (name, v) => d (keys ++ [name]) v
  | none => .ok default

def section? (name : String) (default : α) (d : Decoder α) : Decoder α :=
  setting [name] default fun keys v => if v.isObject then d keys v
    else .ofTest keys v (.error .notSection)

end Decoder

open Decoder

namespace RuleSettings

def decode : Decoder RuleSettings := fun keys v =>
  let d : RuleSettings := {}
  RuleSettings.mk
    <$> setting ["disabled"] d.disabled strings keys v
    <*> setting ["strict"] d.strict bool keys v
    <*> setting ["scriptSuffixes", "script_suffixes"] d.scriptSuffixes
      (checked strings checkSuffixes) keys v
    <*> setting ["deviceModule", "device_module"] d.deviceModule (checked string checkModule) keys v
    <*> setting ["manifestIncludeMarker", "manifest_include_marker"] d.manifestMarker string keys v
    <*> setting ["requireLocale", "require_locale"] d.requireLocale bool keys v

end RuleSettings

namespace Settings

def sectionNames : List String := ["scan", "rules", "output", "concurrency", "logging"]

/-- The sections that are there, and nothing else. -/
def decodeSections : Decoder Settings := fun keys v =>
  let d : Settings := {}
  Settings.mk
    <$> section? "scan" d.exclude (setting ["exclude"] d.exclude strings) keys v
    <*> section? "rules" d.rules RuleSettings.decode keys v
    <*> section? "output" d.format (setting ["format"] d.format (choice OutputFormat.ofLabel?))
      keys v
    <*> section? "concurrency" d.maxWorkers
      (setting ["maxWorkers", "max_workers"] d.maxWorkers (checked integer checkWorkers)) keys v
    <*> section? "logging" d.logLevel (setting ["level"] d.logLevel (choice LogLevel.ofLabel?))
      keys v

/-- Refuses keys that name no section. -/
def checkKeys (members : List (String × Value)) : Decoded Unit :=
  let unknown := members.filter fun m => !sectionNames.contains m.1
  if unknown.isEmpty then .ok () else .invalid (unknown.map fun m => .ofValue [m.1] m.2 .unknownKey)

/-- The settings that the members of an object give. If a key holds half of a character, nothing
else is reported. -/
def decode (members : List (String × Value)) : Decoded Settings :=
  match members.find? fun m => Text.hasHalf m.1 with
  | some m => .invalid [.ofValue [] (.str m.1) .notText]
  | none =>
    (fun settings _ => settings) <$> decodeSections [] (.object members) <*> checkKeys members

/-- The reader by which a program takes its settings; a refusal has a line for each issue. -/
def ofMembers : SettingsReader := fun members =>
  match decode members with
  | .ok settings => .ok settings
  | .invalid issues =>
    .error (.refused ⟨"\n" ++ String.intercalate "\n" (issues.map SettingIssue.text), issues⟩)

end Settings

end TwinNode
