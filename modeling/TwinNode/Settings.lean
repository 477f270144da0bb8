namespace TwinNode

inductive OutputFormat where
  | text
  | json
  deriving DecidableEq, Repr

namespace OutputFormat

def all : List OutputFormat := [text, json]

def label : OutputFormat → String
  | text => "text"
  | json => "json"

def ofLabel? (label : String) : Option OutputFormat := all.find? (·.label == label)

end OutputFormat

inductive LogLevel where
  | error
  | warn
  | info
  | debug
  deriving DecidableEq, Repr

namespace LogLevel

def all : List LogLevel := [error, warn, info, debug]

def label : LogLevel → String
  | error => "error"
  | warn => "warn"
  | info => "info"
  | debug => "debug"

def ofLabel? (label : String) : Option LogLevel := all.find? (·.label == label)

end LogLevel

structure RuleSettings where
  /-- The ids of rules that do not run. -/
  disabled : List String := []
  strict : Bool := false
  /-- The suffixes that module paths of a device manifest must not have. -/
  scriptSuffixes : List String := [".js", ".mjs", ".cjs"]
  /-- The module that exists on devices only. -/
  deviceModule : String := "nodered"
  /-- The word by which markup includes the device manifest. -/
  manifestMarker : String := "moddable_manifest"
  /-- Whether each node should have a locale bundle. -/
  requireLocale : Bool := true
  deriving DecidableEq, Repr

structure Settings where
  /-- Patterns of files that are left out. -/
  exclude : List String := ["node_modules/**", "test/**", "tests/**", "examples/**"]
  rules : RuleSettings := {}
  format : OutputFormat := .text
  /-- How many roots or files are worked on at a time. -/
  maxWorkers : Int := 4
  logLevel : LogLevel := .warn
  deriving DecidableEq, Repr

end TwinNode
