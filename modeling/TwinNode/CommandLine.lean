import TwinNode.CommandLine.Arguments
import TwinNode.Report.Document
import TwinNode.Report.Text
import TwinNode.Settings.File
import TwinNode.Text.Integer
import TwinNode.Text.Letter
import TwinNode.Validation

namespace TwinNode.CommandLine

inductive OptionKey where
  | version
  | help
  | format
  | strict
  | config
  | jobs
  | noHints
  | verbose
  deriving DecidableEq, Repr

def globalOptions : List (OptionSpec OptionKey) :=
  [{ key := .version, long := "--version", short := some 'V' }, { key := .help, long := "--help" }]

def validateOptions : List (OptionSpec OptionKey) :=
  [{ key := .format, long := "--format", short := some 'f', takesValue := true },
   { key := .strict, long := "--strict" },
   { key := .config, long := "--config", short := some 'c', takesValue := true },
   { key := .jobs, long := "--jobs", short := some 'j', takesValue := true },
   { key := .noHints, long := "--no-hints" },
   { key := .verbose, long := "--verbose", short := some 'v' },
   { key := .help, long := "--help" }]

def rulesOptions : List (OptionSpec OptionKey) :=
  [{ key := .format, long := "--format", short := some 'f', takesValue := true },
   { key := .help, long := "--help" }]

inductive Request where
  | version
  | help
  | rules (format : OutputFormat)
  | validate (roots : List Path.Location) (format : Option OutputFormat) (strict : Bool)
      (config : Option Path.Location) (showHints : Bool)
  deriving DecidableEq, Repr

/-- The value of an option that may be absent; a value that cannot be read gives nothing. -/
def optional? (value : Option String) (read? : String → Option α) : Option (Option α) :=
  match value with
  | none => some none
  | some written => (read? written).map some

/-- The location that a word names; a word with a NUL names none. -/
def location? (word : String) : Option Path.Location :=
  if word.toList.contains '\x00' then none else some (Path.Location.ofString word)

/-- The number of workers that a word asks for, at least one. -/
def workers? (word : String) : Option Int :=
  (Text.readInteger word).toOption.filter (1 ≤ ·)

def validateRequest? (words : List String) : Option Request := do
  let s ← split? validateOptions true words
  if s.has .help then return .help
  let format ← optional? (s.value? .format) OutputFormat.ofLabel?
  let _ ← optional? (s.value? .jobs) workers?
  let config ← optional? (s.value? .config) location?
  let roots ← s.rest.mapM location?
  if roots.isEmpty then none
  else some (.validate roots format (s.has .strict) config (!s.has .noHints))

def rulesRequest? (words : List String) : Option Request := do
  let s ← split? rulesOptions true words
  if s.has .help then return .help
  let format ← optional? (s.value? .format) OutputFormat.ofLabel?
  if s.rest.isEmpty then some (.rules (format.getD .text)) else none

def globalRequest? (s : Split OptionKey) : Option Request :=
  match s.options with
  | (.version, _) :: _ => some .version
  | _ :: _ => some .help
  | [] => none

/-- A word that can be taken for an option when it is no command. -/
def looksLikeOption (word : String) : Bool := word.toList.head?.any fun c => !Text.isAlphanumeric c

/-- The request of a command line. Where a command is expected, options are read even behind
`--`. -/
def request? (words : List String) : Option Request := do
  let s ← split? globalOptions false words
  match globalRequest? s, s.rest with
  | some request, _ => some request
  | none, "validate" :: words => validateRequest? words
  | none, "rules" :: words => rulesRequest? words
  | none, word :: words =>
    if looksLikeOption word then (split? globalOptions false (word :: words)).bind globalRequest?
    else none
  | none, [] => none

structure Outcome where
  exitCode : Nat
  output : String := ""
  /-- What is said about a command that could not be carried out. -/
  complaint : String := ""
  deriving DecidableEq, Repr

/-- Why a command breaks off. -/
inductive Failure where
  /-- The settings file cannot be looked up, is no text or is too much to be read. -/
  | settings (e : SettingsError)
  | validation (e : ValidationError)
  /-- What is to be said cannot be shown on the console. -/
  | markup (e : Console.MarkupFault)
  | unwritable
  deriving DecidableEq, Repr

def usage : String :=
  joinLines ["Usage: nodelint [--version] COMMAND", "", "  validate [OPTIONS] ROOTS...",
    "  rules [OPTIONS]"]

def validateRoots (fs : FileSystem) (settings : Settings) (roots : List Path.Location)
    (format : Option OutputFormat) (strict showHints : Bool) : Except Failure Outcome := do
  let rules := { settings.rules with strict := settings.rules.strict || strict }
  let reports ← (validate fs { settings with rules } (roots.map (·.text))).mapError
    Failure.validation
  let output ← match format.getD settings.format with
    | .json => .ok ((reportsDocument reports).pretty ++ "\n")
    | .text => (reportsText reports showHints).mapError Failure.markup
  if Text.hasHalf output then .error .unwritable
  else .ok { exitCode := exitCodeOfAll reports, output }

/-- What is said about a command that could not be carried out, with markup. -/
def complaintMarkup (complaint : String) : String := styled "red" "Error:" ++ " " ++ complaint

/-- The outcome of a command for which there are no settings. -/
def withoutSettings (e : SettingsError) : Except Failure Outcome :=
  match e.complaint? with
  | none => .error (.settings e)
  | some complaint =>
    match shownLines (complaintMarkup complaint) with
    | .error fault => .error (.markup fault)
    | .ok lines => .ok { exitCode := 2, complaint := joinLines lines }

/-- The directory from which the settings file of a request is searched: its first root, if that is
one. -/
def settingsStart (fs : FileSystem) : List Path.Location → Except LookupFault (Option Path.Location)
  | [] => .ok none
  | root :: _ =>
    (fs.holdsDirectory root).map fun isDirectory => if isDirectory then some root else none

/-- The settings of a request: from the file it names, or else from one that is searched. -/
def requestSettings (reader : SettingsReader) (fs : FileSystem) (roots : List Path.Location)
    (config : Option Path.Location) :
    Except SettingsError Settings :=
  match config, settingsStart fs roots with
  | some file, _ => loadSettings reader fs (some file) none
  | none, .ok start => loadSettings reader fs none start
  | none, .error .nameTooLong => .error .nameTooLong

def Request.run (reader : SettingsReader) (fs : FileSystem) : Request → Except Failure Outcome
  | .version => .ok { exitCode := 0, output := "nodelint version 0.1.0\n" }
  | .help => .ok { exitCode := 0, output := usage }
  | .rules .json => .ok { exitCode := 0, output := (rulesDocument Rule.catalog).pretty ++ "\n" }
  | .rules .text => .ok { exitCode := 0, output := rulesText Rule.catalog }
  | .validate roots format strict config showHints =>
    match requestSettings reader fs roots config with
    | .ok settings => validateRoots fs settings roots format strict showHints
    | .error e => withoutSettings e

def run (reader : SettingsReader) (fs : FileSystem) (words : List String) :
    Except Failure Outcome :=
  match request? words with
  | some request => request.run reader fs
  | none => .ok { exitCode := 2, complaint := usage }

end TwinNode.CommandLine
