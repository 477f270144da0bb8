import TwinNode.CommandLine
import TwinNode.Proofs.Validation.Batch

/-! A command takes one set of settings for all its roots. Without a named settings file it
is the nearest one to the first root. Under these settings a root gets the report that it
gets on its own, so only the choice of the settings makes a root depend on those before it.
-/

namespace TwinNode

open CommandLine (Failure Outcome Request requestSettings settingsStart validateRoots)

/-- The settings of a command that may be strict on its own. -/
def Settings.strictly (settings : Settings) (strict : Bool) : Settings :=
  { settings with rules := { settings.rules with strict := settings.rules.strict || strict } }

def reportsOutput (format : OutputFormat) (showHints : Bool) (reports : List Report) :
    Except Failure String :=
  match format with
  | .json => .ok ((reportsDocument reports).pretty ++ "\n")
  | .text => (reportsText reports showHints).mapError Failure.markup

def putReports (format : OutputFormat) (showHints : Bool) (reports : List Report) :
    Except Failure Outcome :=
  (reportsOutput format showHints reports).bind fun output =>
    if Text.hasHalf output then .error .unwritable
    else .ok { exitCode := exitCodeOfAll reports, output }

theorem validateRoots_eq (fs : FileSystem) (settings : Settings) (roots : List Path.Location)
    (format : Option OutputFormat) (strict showHints : Bool) :
    validateRoots fs settings roots format strict showHints =
      ((validate fs (settings.strictly strict) (roots.map (·.text))).mapError
        Failure.validation).bind (putReports (format.getD settings.format) showHints) := by
  unfold validateRoots putReports reportsOutput
  cases format.getD settings.format <;> rfl

/-- A command without a named settings file makes reports on its roots. -/
def Reported (reader : SettingsReader) (fs : FileSystem) (strict : Bool)
    (roots : List Path.Location) (reports : List Report) : Prop :=
  ∃ settings, requestSettings reader fs roots none = .ok settings ∧
    validate fs (settings.strictly strict) (roots.map (·.text)) = .ok reports

section Reported

variable {reader : SettingsReader} {fs : FileSystem} {strict : Bool} {roots : List Path.Location}
  {reports : List Report} {settings : Settings}

theorem Reported.run (h : Reported reader fs strict roots reports) :
    ∃ settings, requestSettings reader fs roots none = .ok settings ∧
    ∀ format showHints, (Request.validate roots format strict none showHints).run reader fs =
      putReports (format.getD settings.format) showHints reports := by
  obtain ⟨settings, hsettings, hreports⟩ := h
  refine ⟨settings, hsettings, fun format showHints => ?_⟩
  rw [Request.run, hsettings]
  dsimp only
  rw [validateRoots_eq, hreports]
  rfl

end Reported

end TwinNode
