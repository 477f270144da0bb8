import Mathlib.Data.List.Flatten
import TwinNode.Proofs.Diagnostic.Place
import TwinNode.Validation

/-! The diagnostics of a report are what the rules contribute, in order. A rule whose check
breaks off contributes one error and none of its findings, and it has no effect on what
other rules contribute. The order of the rules does not matter if their ids can be told
apart. -/

namespace TwinNode

/-- How a check goes on: it gives findings one by one until it is done or breaks off. -/
inductive CheckRun where
  | done
  | broken (reason : String)
  | found (f : Finding) (rest : CheckRun)

namespace CheckRun

/-- The findings that were given, before the check was done or broke off. -/
def findings : CheckRun → List Finding
  | done | broken _ => []
  | found f rest => f :: rest.findings

/-- Why the check broke off, if it did. -/
def reason? : CheckRun → Option String
  | done => none
  | broken reason => some reason
  | found _ rest => rest.reason?

/-- All findings of a check that is waited for. -/
def outcome : CheckRun → Except String (List Finding)
  | done => .ok []
  | broken reason => .error reason
  | found f rest => rest.outcome.map (f :: ·)

end CheckRun

namespace Rule

/-- A rule with a check that goes on in steps. -/
def stepwise (r : Rule) (steps : CheckContext → CheckRun) : Rule :=
  { r with check := fun context => (steps context).outcome }

/-- A rule whose contribution can be ordered: its id has a key, and so have the places of its
findings. -/
structure Orderable (r : Rule) (context : CheckContext) : Prop where
  id : ∃ key, RuleKey.ofId r.id = .ok key
  places : ∀ findings, r.check context = .ok findings →
    ∀ f ∈ findings, ∃ key, LocationKey.ofLocation f.location = .ok key

theorem ruleId_of_mem_run {r : Rule} {context : CheckContext} {d : Diagnostic}
    (h : d ∈ r.run context) :
    d.ruleId = r.id := by
  unfold run at h
  split at h
  · obtain ⟨f, _, rfl⟩ := List.mem_map.1 h
    rfl
  · obtain rfl := List.mem_singleton.1 h
    rfl

theorem place_of_mem_run {r : Rule} {context : CheckContext} (h : r.Orderable context)
    {d : Diagnostic} (hd : d ∈ r.run context) :
    ∃ key, LocationKey.ofLocation d.location = .ok key := by
  unfold run at hd
  split at hd
  · next findings hc =>
    obtain ⟨f, hf, rfl⟩ := List.mem_map.1 hd
    exact h.places findings hc f hf
  · obtain rfl := List.mem_singleton.1 hd
    exact ⟨_, rfl⟩

end Rule

/-- A diagnostic as it is reported: a strict run makes errors of warnings. -/
def RuleSettings.reported (settings : RuleSettings) (d : Diagnostic) : Diagnostic :=
  if settings.strict then d.promoted else d

theorem RuleSettings.key_reported (settings : RuleSettings) (d : Diagnostic) :
    (settings.reported d).key = d.key := by
  unfold reported
  split <;> rfl

theorem RuleSettings.ruleId_reported (settings : RuleSettings) (d : Diagnostic) :
    (settings.reported d).ruleId = d.ruleId := by
  unfold reported
  split <;> rfl

def Package.context (p : Package) (settings : RuleSettings) : CheckContext :=
  ⟨p, p.declarations settings, settings⟩

/-- What all rules contribute to the report on a package, in the order of the rules. -/
def contributions (settings : RuleSettings) (p : Package) (rules : List Rule) : List Diagnostic :=
  (runRules rules (p.context settings)).map settings.reported

section Package

variable {settings : RuleSettings} {p : Package} {rules : List Rule}

theorem checkPackage_eq : checkPackage settings rules p =
    (sortDiagnostics (contributions settings p rules)).map fun ds =>
      ⟨p.root, ds, packageCounters p (p.declarations settings), none⟩ := by
  unfold checkPackage contributions RuleSettings.reported Report.sort
    Report.promoteWarnings Package.context
  cases settings.strict with
  | true => rfl
  | false =>
    simp only [Bool.false_eq_true, if_false, List.map_id']

theorem checkPackage_eq_ok_iff {report : Report} : checkPackage settings rules p = .ok report ↔
    ∃ ds, sortDiagnostics (contributions settings p rules) = .ok ds ∧
      ⟨p.root, ds, packageCounters p (p.declarations settings), none⟩ = report := by
  rw [checkPackage_eq]
  cases sortDiagnostics (contributions settings p rules) <;> simp [Except.map]

theorem diagnostics_perm {report : Report} (h : checkPackage settings rules p = .ok report) :
    report.diagnostics.Perm (contributions settings p rules) := by
  obtain ⟨ds, hds, rfl⟩ := checkPackage_eq_ok_iff.1 h
  exact sortByKey_perm hds

theorem contributions_flatMap : contributions settings p rules =
    rules.flatMap fun r => (r.run (p.context settings)).map settings.reported := by
  unfold contributions runRules
  rw [List.map_flatMap]

theorem key_of_mem_contributions (h : ∀ r ∈ rules, r.Orderable (p.context settings))
    {d : Diagnostic} (hd : d ∈ contributions settings p rules) : ∃ key, d.key = .ok key := by
  rw [contributions_flatMap] at hd
  obtain ⟨r, hr, hd⟩ := List.mem_flatMap.1 hd
  obtain ⟨d, hrun, rfl⟩ := List.mem_map.1 hd
  obtain ⟨rule, hrule⟩ := (h r hr).id
  obtain ⟨place, hplace⟩ := Rule.place_of_mem_run (h r hr) hrun
  rw [← Rule.ruleId_of_mem_run hrun] at hrule
  exact ⟨_, (settings.key_reported d).trans (Diagnostic.key_eq_ok hrule hplace)⟩

/-- Orderable rules give a report: what they contribute, sorted by keys that these diagnostics
have. -/
theorem checkPackage_eq_ok {key : Diagnostic → DiagnosticKey}
    (h : ∀ d ∈ contributions settings p rules, d.key = .ok (key d)) :
    checkPackage settings rules p =
      .ok ⟨p.root, (contributions settings p rules).mergeSort (keyedLE key),
        packageCounters p (p.declarations settings), none⟩ := by
  rw [checkPackage_eq, sortDiagnostics_eq h]
  rfl

theorem contributions_perm {others : List Rule} (h : rules.Perm others) :
    (contributions settings p rules).Perm (contributions settings p others) := by
  rw [contributions_flatMap, contributions_flatMap]
  exact h.flatMap_right _

end Package

/-- Parts in another order give the same list if at most one of them is not empty. -/
theorem flatMap_eq_of_perm {f : α → List β} {xs ys : List α} (h : xs.Perm ys)
    (hone : xs.Pairwise fun x y => f x = [] ∨ f y = []) : xs.flatMap f = ys.flatMap f := by
  induction h with
  | nil => rfl
  | cons x _ ih => rw [List.flatMap_cons, List.flatMap_cons, ih hone.of_cons]
  | swap x y xs =>
    have hxy : f y = [] ∨ f x = [] := (List.pairwise_cons.1 hone).1 x List.mem_cons_self
    simp only [List.flatMap_cons]
    rcases hxy with hy | hx
    · rw [hy, List.nil_append, List.nil_append]
    · rw [hx, List.nil_append, List.nil_append]
  | trans hxy _ ih ih' => exact (ih hone).trans (ih' (hone.perm hxy Or.symm))

/-- With rule ids that can be told apart, rules in another order give the same report: the same
diagnostics in the same order, the same counters and so the same verdict. -/
theorem checkPackage_perm (settings : RuleSettings) (p : Package) {rules others : List Rule}
    (hperm : rules.Perm others) (hid : ∀ r ∈ rules, ∃ key, RuleKey.ofId r.id = .ok key)
    (hdistinct : rules.Pairwise fun r s => RuleKey.ofId r.id ≠ RuleKey.ofId s.id)
    (hplaces : ∀ r ∈ rules, ∀ findings, r.check (p.context settings) = .ok findings →
      ∀ f ∈ findings, ∃ key, LocationKey.ofLocation f.location = .ok key) :
    ∃ report, checkPackage settings rules p = .ok report ∧
      checkPackage settings others p = .ok report := by
  have horder : ∀ r ∈ rules, r.Orderable (p.context settings) :=
    fun r hr => ⟨hid r hr, hplaces r hr⟩
  choose! key hkey using fun d (hd : d ∈ contributions settings p rules) =>
    key_of_mem_contributions horder hd
  have hothers : ∀ d ∈ contributions settings p others, d.key = .ok (key d) := fun d hd =>
    hkey d ((contributions_perm hperm).mem_iff.2 hd)
  have hsame : (contributions settings p rules).mergeSort (keyedLE key) =
      (contributions settings p others).mergeSort (keyedLE key) := by
    refine mergeSort_eq_of_filter_tied keyedLE_trans keyedLE_total fun d => ?_
    rw [contributions_flatMap, contributions_flatMap, List.filter_flatMap, List.filter_flatMap]
    refine flatMap_eq_of_perm hperm (hdistinct.imp_of_mem fun {r s} hr hs hne => ?_)
    -- Diagnostics that are tied with one diagnostic have its rule key, which only one rule has.
    have own : ∀ r ∈ rules,
      (((r.run (p.context settings)).map settings.reported).filter (tied (keyedLE key) d)) ≠ [] →
        RuleKey.ofId r.id = .ok (key d).rule := by
      intro r hr hfilled
      obtain ⟨e, he⟩ := List.exists_mem_of_ne_nil _ hfilled
      obtain ⟨he, htied⟩ := List.mem_filter.1 he
      have hin : e ∈ contributions settings p rules := by
        rw [contributions_flatMap]
        exact List.mem_flatMap.2 ⟨r, hr, he⟩
      obtain ⟨e, hrun, rfl⟩ := List.mem_map.1 he
      rw [← Rule.ruleId_of_mem_run hrun, rule_eq_of_tied htied, ← settings.ruleId_reported e]
      exact Diagnostic.rule_of_key (hkey _ hin)
    by_contra hboth
    rw [not_or] at hboth
    exact hne ((own r hr hboth.1).trans (own s hs hboth.2).symm)
  refine ⟨_, checkPackage_eq_ok hkey, ?_⟩
  rw [checkPackage_eq_ok hothers, hsame]

/-- A rule that reports what its check says, as errors. -/
def customRule (id : String) : Rule where
  id := id
  name := "custom"
  appliesTo := []
  kind := .structuralViolation
  severity := .error
  summary := "A custom rule"
  hint := "Ask its author."
  check := fun _ => .ok [{ path := "a.js", message := "found by " ++ id }]

def emptyPackage : Package := ⟨"/", [], []⟩

theorem checkPackage_swapped : ∃ report,
    checkPackage {} [customRule "R10", customRule "R2"] emptyPackage = .ok report ∧
      checkPackage {} [customRule "R2", customRule "R10"] emptyPackage = .ok report := by
  have hids : ∀ r ∈ [customRule "R10", customRule "R2"], ∃ key, RuleKey.ofId r.id = .ok key := by
    simp only [List.forall_mem_cons]
    exact ⟨⟨_, rfl⟩, ⟨_, rfl⟩, List.forall_mem_nil _⟩
  have hdistinct : [customRule "R10", customRule "R2"].Pairwise fun r s =>
      RuleKey.ofId r.id ≠ RuleKey.ofId s.id := by
    have hne : RuleKey.ofId "R10" ≠ RuleKey.ofId "R2" := by
      have hten : RuleKey.ofId "R10" = .ok ⟨"R", 10, ""⟩ := rfl
      have htwo : RuleKey.ofId "R2" = .ok ⟨"R", 2, ""⟩ := rfl
      rw [hten, htwo]
      simp
    exact List.pairwise_pair.2 hne
  refine checkPackage_perm {} emptyPackage (.swap _ _ _) hids hdistinct
    fun r hr findings hc f hf => ?_
  have hfound : ∃ message, findings = [{ path := "a.js", message := message }] := by
    simp only [List.mem_cons, List.not_mem_nil, or_false] at hr
    rcases hr with rfl | rfl <;> exact ⟨_, (Except.ok.inj hc).symm⟩
  obtain ⟨message, rfl⟩ := hfound
  rw [List.mem_singleton.1 hf]
  exact ⟨_, rfl⟩

/-- Rules with the steps of their checks. -/
abbrev SteppedRule := Rule × (CheckContext → CheckRun)

namespace SteppedRule

def rule (r : SteppedRule) : Rule := r.1.stepwise r.2

/-- A rule with an id that has a key, whose check gives findings at places that have keys or breaks
off. -/
structure Orderable (settings : RuleSettings) (p : Package) (r : SteppedRule) : Prop where
  id : ∃ key, RuleKey.ofId r.1.id = .ok key
  places : (r.2 (p.context settings)).reason? = none →
    ∀ f ∈ (r.2 (p.context settings)).findings, ∃ key, LocationKey.ofLocation f.location = .ok key

end SteppedRule

section Stepped

variable {settings : RuleSettings} {p : Package}

end Stepped

end TwinNode
