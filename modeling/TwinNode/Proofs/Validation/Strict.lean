import TwinNode.Proofs.Alike
import TwinNode.Proofs.Rule.Places
import TwinNode.Proofs.Rule.Settings

namespace TwinNode

open TwinNode.Json (SyntaxError)
open TwinNode.Text (maxDigits)

def RuleSettings.withStrict (settings : RuleSettings) (strict : Bool) :
    RuleSettings := { settings with strict }

def Settings.withStrict (settings : Settings) (strict : Bool) : Settings :=
  { settings with rules := settings.rules.withStrict strict }

namespace Report

/-- What the report of a strict run is, compared with that of a lenient one. -/
structure StrictOf (strict lenient : Report) : Prop where
  diagnostics : strict.diagnostics = lenient.diagnostics.map fun d => { d with severity := .error }
  root : strict.root = lenient.root
  counters : strict.counters = lenient.counters
  invocationError : strict.invocationError = lenient.invocationError
  passed : strict.passed = true ↔ lenient.diagnostics = []
  exitCode : lenient.exitCode ≤ strict.exitCode

theorem exitCode_le_of_passed {r s : Report} (herror : r.invocationError = s.invocationError)
    (h : s.passed = true → r.passed = true) : r.exitCode ≤ s.exitCode := by
  unfold exitCode
  rw [herror]
  split
  · exact le_refl 2
  · by_cases hs : s.passed = true
    · rw [if_pos hs, if_pos (h hs)]
    · rw [if_neg hs]
      split <;> omega

theorem passed_of_nil {r : Report} (herror : r.invocationError = none) (h : r.diagnostics = []) :
    r.passed = true := by
  unfold passed
  rw [herror, h]
  rfl

theorem diagnostics_of_passed_promoteWarnings {r : Report} (h : r.promoteWarnings.passed = true) :
    r.diagnostics = [] := by
  unfold passed promoteWarnings at h
  rw [Bool.and_eq_true, List.all_map, List.all_eq_true] at h
  exact List.eq_nil_iff_forall_not_mem.2 fun d hd => by simpa [Diagnostic.promoted] using h.2 d hd

/-- With its warnings promoted, a report on a root that could be checked is what a strict run
gives. -/
theorem strictOf_promoteWarnings {r : Report} (h : r.invocationError = none) :
    r.promoteWarnings.StrictOf r := by
  refine ⟨rfl, rfl, rfl, rfl, ⟨diagnostics_of_passed_promoteWarnings, fun hnil => ?_⟩,
    exitCode_le_of_passed rfl fun hp => passed_of_nil h (diagnostics_of_passed_promoteWarnings hp)⟩
  exact passed_of_nil h (by rw [promoteWarnings, hnil]; rfl)

theorem StrictOf.withRoot {strict lenient : Report} (h : strict.StrictOf lenient) (root : String) :
    StrictOf { strict with root } { lenient with root } := ⟨h.1, rfl, h.3, h.4, h.5, h.6⟩

theorem strictOf_invocationReport (root reason : String) :
    (invocationReport root reason).StrictOf (invocationReport root reason) :=
  ⟨rfl, rfl, rfl, rfl, by simp [passed, invocationReport], le_refl _⟩

end Report

theorem exitCode_le_two (r : Report) : r.exitCode ≤ 2 := by
  unfold Report.exitCode
  split
  · exact le_refl 2
  · split <;> omega

/-- The exit code for several roots is the least one that is not better than that of any of them. -/
theorem exitCodeOfAll_le_iff {reports : List Report} {code : ℕ} :
    exitCodeOfAll reports ≤ code ↔ ∀ r ∈ reports, r.exitCode ≤ code := by
  have hcontains : ∀ n : ℕ, (reports.map Report.exitCode).contains n = true ↔
      ∃ r ∈ reports, r.exitCode = n := fun n => by
    simp
  unfold exitCodeOfAll
  dsimp only
  split
  · next htwo =>
    obtain ⟨r, hr, hcode⟩ := (hcontains 2).1 htwo
    exact ⟨fun h s _ => (exitCode_le_two s).trans h, fun h => hcode ▸ h r hr⟩
  · next htwo =>
    have hsmall : ∀ r ∈ reports, r.exitCode ≤ 1 := fun r hr => by
      have hne : r.exitCode ≠ 2 := fun heq => htwo ((hcontains 2).2 ⟨r, hr, heq⟩)
      have hle := exitCode_le_two r
      omega
    split
    · next hone =>
      obtain ⟨r, hr, hcode⟩ := (hcontains 1).1 hone
      exact ⟨fun h s hs => (hsmall s hs).trans h, fun h => hcode ▸ h r hr⟩
    · next hone =>
      refine ⟨fun h s hs => ?_, fun _ => Nat.zero_le code⟩
      have hne : s.exitCode ≠ 1 := fun heq => hone ((hcontains 1).2 ⟨s, hs, heq⟩)
      have hle := hsmall s hs
      omega

theorem exitCodeOfAll_le {strict lenient : List Report}
    (h : List.Forall₂ Report.StrictOf strict lenient) :
    exitCodeOfAll lenient ≤ exitCodeOfAll strict := by
  refine exitCodeOfAll_le_iff.2 fun r hr => ?_
  obtain ⟨s, hs, hrs⟩ := exists_of_forall₂ h hr
  exact hrs.exitCode.trans (exitCodeOfAll_le_iff.1 (le_refl _) s hs)

theorem sortDiagnostics_promoted (ds : List Diagnostic) :
    sortDiagnostics (ds.map Diagnostic.promoted) =
      (sortDiagnostics ds).map (List.map Diagnostic.promoted) := by
  have hkey : ∀ d : Diagnostic, d.promoted.key = d.key := fun _ => rfl
  exact sortByKey_map hkey ds

theorem runRules_withStrict (settings : RuleSettings) (p : Package) {rules : List Rule}
    (h : rules ⊆ Rule.catalog)
    (strict : Bool) : runRules rules (p.context (settings.withStrict strict)) =
      runRules rules (p.context settings) := by
  have halike : (settings.withStrict strict).SearchAlike settings := ⟨rfl, rfl, rfl⟩
  exact List.flatMap_congr fun r hr => run_of_searchAlike halike p (h hr) (.inr rfl)

/-- A strict run of rules of the catalog gives the report of a lenient one with warnings promoted,
or fails as it does. -/
theorem checkPackage_withStrict (settings : RuleSettings) (p : Package) {rules : List Rule}
    (h : rules ⊆ Rule.catalog) :
    checkPackage (settings.withStrict true) rules p =
      (checkPackage (settings.withStrict false) rules p).map Report.promoteWarnings := by
  have hfacts : ∀ strict, p.declarations (settings.withStrict strict) = p.declarations settings :=
    fun strict =>
    p.declarations_of_searchAlike (s := settings.withStrict strict) ⟨rfl, rfl, rfl⟩
  have hstrict : contributions (settings.withStrict true) p rules =
      (contributions (settings.withStrict false) p rules).map Diagnostic.promoted := by
    unfold contributions
    rw [runRules_withStrict settings p h, runRules_withStrict settings p h]
    exact congrArg (List.map Diagnostic.promoted) (List.map_id' _).symm
  rw [checkPackage_eq, checkPackage_eq, hfacts, hfacts, hstrict, sortDiagnostics_promoted]
  cases sortDiagnostics (contributions (settings.withStrict false) p rules) <;> rfl

theorem enabled_subset_catalog (disabled : List String) : Rule.enabled disabled ⊆ Rule.catalog :=
  fun _ hr => (List.mem_filter.1 hr).1

theorem checkPackage_endAlike (settings : RuleSettings) (p : Package) :
    EndAlike Report.StrictOf (checkPackage (settings.withStrict true)
      (Rule.enabled settings.disabled) p)
      (checkPackage (settings.withStrict false) (Rule.enabled settings.disabled) p) := by
  rw [checkPackage_withStrict settings p (enabled_subset_catalog _)]
  refine .of_map fun report hreport => Report.strictOf_promoteWarnings ?_
  obtain ⟨ds, _, rfl⟩ := checkPackage_eq_ok_iff.1 hreport
  rfl

theorem validateRoot_endAlike (fs : FileSystem) (settings : Settings) (root : String) :
    EndAlike Report.StrictOf (validateRoot fs (settings.withStrict true) root)
      (validateRoot fs (settings.withStrict false) root) := by
  unfold validateRoot
  dsimp only [Settings.withStrict]
  cases discover fs (Path.Location.ofString root) settings.exclude settings.maxWorkers with
  | error e =>
    cases e with
    | invocation _ problem => exact .ok (Report.strictOf_invocationReport root problem.message)
    | fault f => exact .error (ValidationError.scan f)
  | ok p =>
    have hp := checkPackage_endAlike settings.rules p
    dsimp only [RuleSettings.withStrict] at hp ⊢
    -- Both runs put the root as it was given into the report, if there is one.
    generalize checkPackage { settings.rules with strict := true } _ p = strict at hp
    generalize checkPackage { settings.rules with strict := false } _ p = lenient at hp
    cases hp with
    | error e => exact .error (ValidationError.order e)
    | ok h => exact .ok (h.withRoot root)

theorem validate_endAlike (fs : FileSystem) (settings : Settings) (roots : List String) :
    EndAlike (fun strict lenient => List.Forall₂ Report.StrictOf strict lenient ∧
        exitCodeOfAll lenient ≤ exitCodeOfAll strict)
      (validate fs (settings.withStrict true) roots)
      (validate fs (settings.withStrict false) roots) := by
  have hroots := EndAlike.mapM fun root (_ : root ∈ roots) => validateRoot_endAlike fs settings root
  unfold validate
  generalize roots.mapM (validateRoot fs (settings.withStrict true)) = strict at hroots ⊢
  generalize roots.mapM (validateRoot fs (settings.withStrict false)) = lenient at hroots ⊢
  cases hroots with
  | error e => exact .error e
  | ok h => exact .ok ⟨h, exitCodeOfAll_le h⟩

/-- Where no file has too many lines, the rules of the catalog give a report. -/
theorem exists_report {p : Package} (h : ∀ a ∈ p.artifacts, a.Numbered)
    (settings : RuleSettings) {rules : List Rule} (hrules : rules ⊆ Rule.catalog) :
    ∃ report, checkPackage settings rules p = .ok report := by
  have horder : ∀ r ∈ rules, r.Orderable (p.context settings) := fun r hr =>
    Rule.orderable_of_mem_catalog h settings r (hrules hr)
  choose! key hkey using fun d (hd : d ∈ contributions settings p rules) =>
    key_of_mem_contributions horder hd
  exact ⟨_, checkPackage_eq_ok hkey⟩

/-- A strict run of the catalog makes errors of all diagnostics of a lenient one and changes nothing
else, so it passes if and only if there is no diagnostic at all. Both give a report unless a line
number has too many digits. The same holds for the reports on several roots, and for the exit code
of all of them. -/
theorem strict_run_promotes (settings : Settings) :
    (∀ p : Package,
      EndAlike Report.StrictOf
        (checkPackage (settings.rules.withStrict true) (Rule.enabled settings.rules.disabled) p)
        (checkPackage (settings.rules.withStrict false) (Rule.enabled settings.rules.disabled) p) ∧
      ((∀ a ∈ p.artifacts, a.Numbered) → ∃ report,
        checkPackage (settings.rules.withStrict false) (Rule.enabled settings.rules.disabled) p =
          .ok report)) ∧
    ∀ (fs : FileSystem) (roots : List String),
      EndAlike (fun strict lenient => List.Forall₂ Report.StrictOf strict lenient ∧
          exitCodeOfAll lenient ≤ exitCodeOfAll strict)
        (validate fs (settings.withStrict true) roots)
        (validate fs (settings.withStrict false) roots) :=
  ⟨fun p => ⟨checkPackage_endAlike settings.rules p, fun hp =>
    exists_report hp (settings.rules.withStrict false) (enabled_subset_catalog _)⟩,
    fun fs roots => validate_endAlike fs settings roots⟩

/-- A package with nothing but a locale bundle that is empty and so no JSON. -/
def emptyBundlePackage : Package :=
  ⟨"/", [⟨.localeBundle, "locales/en/a.json", [], .malformed (SyntaxError.locate [] .noValue [])⟩],
    []⟩

theorem numbered_emptyBundle : ∀ a ∈ emptyBundlePackage.artifacts, a.Numbered := by
  have hone : 1 < 10 ^ maxDigits := Nat.one_lt_pow (by decide) (by decide)
  intro a ha
  obtain rfl := List.mem_singleton.1 ha
  refine ⟨fun v hv => absurd hv (by simp [Artifact.views?]), fun e he => ?_⟩
  obtain rfl := Option.some.inj he
  exact ⟨hone, hone⟩

theorem warned_emptyBundle {report : Report}
    (h : checkPackage {} (Rule.enabled []) emptyBundlePackage = .ok report) :
    ∃ d ∈ report.diagnostics, d.ruleId = "J1" ∧ d.severity = .warning := by
  have hfirst : ∃ d ∈ contributions {} emptyBundlePackage (Rule.enabled []), d.ruleId = "J1" ∧
      d.severity = .warning :=
    ⟨_, List.mem_cons_self, rfl, rfl⟩
  obtain ⟨d, hd, hwarned⟩ := hfirst
  exact ⟨d, (diagnostics_perm h).mem_iff.2 hd, hwarned⟩

theorem strict_run_promotes_emptyBundle :
    (∀ a ∈ emptyBundlePackage.artifacts, a.Numbered) ∧ ∃ strict lenient,
    checkPackage { strict := true } (Rule.enabled []) emptyBundlePackage = .ok strict ∧
      checkPackage {} (Rule.enabled []) emptyBundlePackage = .ok lenient ∧ strict.StrictOf lenient ∧
      ∃ d ∈ lenient.diagnostics, d.ruleId = "J1" ∧ d.severity = .warning := by
  obtain ⟨halike, hreport⟩ := (strict_run_promotes {}).1 emptyBundlePackage
  obtain ⟨lenient, hlenient⟩ := hreport numbered_emptyBundle
  rw [hlenient] at halike
  generalize hstrict : checkPackage (({} : Settings).rules.withStrict true) _ emptyBundlePackage =
    run at halike
  cases halike with
  | @ok strict _ hof =>
    exact ⟨numbered_emptyBundle, strict, lenient, hstrict, hlenient, hof,
      warned_emptyBundle hlenient⟩

end TwinNode
