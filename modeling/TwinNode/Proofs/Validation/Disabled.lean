import TwinNode.Proofs.Validation.Strict

/-! No rule looks at what other rules found, or at which of them run. So a run without some
rules reports what a run of all rules does, less the diagnostics of these rules. Not to ask
for locale bundles is to disable the rule about them. -/

namespace TwinNode

theorem flatMap_filter_of_forall {q : α → Bool} {keep : β → Bool} {f : α → List β} {xs : List α}
    (h : ∀ x ∈ xs, ∀ y ∈ f x, keep y = q x) :
    (xs.filter q).flatMap f = (xs.flatMap f).filter keep := by
  induction xs with
  | nil => rfl
  | cons x xs ih =>
    obtain ⟨hx, hxs⟩ := List.forall_mem_cons.1 h
    rw [List.flatMap_cons, List.filter_append, ← ih hxs, List.filter_congr hx]
    cases hq : q x with
    | true => simp [hq]
    | false => simp [hq]

theorem flatMap_filter_of_eq_nil {q : α → Bool} {f : α → List β} {xs : List α}
    (h : ∀ x ∈ xs, q x = false → f x = []) :
    (xs.filter q).flatMap f = xs.flatMap f := by
  induction xs with
  | nil => rfl
  | cons x xs ih =>
    obtain ⟨hx, hxs⟩ := List.forall_mem_cons.1 h
    cases hq : q x with
    | true => rw [List.filter_cons_of_pos hq, List.flatMap_cons, List.flatMap_cons, ih hxs]
    | false =>
      rw [List.filter_cons_of_neg (by simp [hq]), List.flatMap_cons, hx hq, ih hxs, List.nil_append]

def RuleSettings.withDisabled (settings : RuleSettings) (disabled : List String) : RuleSettings :=
  { settings with disabled }

/-- Whether a diagnostic is of a rule that is not disabled. -/
def Diagnostic.staysWithout (disabled : List String) (d : Diagnostic) : Bool :=
  !disabled.any (Rule.sameId d.ruleId)

namespace Rule

theorem enabled_nil : enabled [] = catalog := List.filter_eq_self.2 fun _ _ => rfl

theorem enabled_cons (id : String) (disabled : List String) :
    enabled (id :: disabled) = (enabled disabled).filter fun r => !sameId r.id id := by
  unfold enabled
  rw [List.filter_filter]
  refine List.filter_congr fun r _ => ?_
  rw [List.any_cons, Bool.not_or]

theorem check_of_id_localeBundles {r : Rule} (hr : r ∈ catalog) (hid : sameId r.id "P2" = true) :
    r.check = total localeBundles := by
  simp only [catalog, List.mem_cons, List.not_mem_nil, or_false] at hr
  rcases hr with rfl | rfl | rfl | rfl | rfl | rfl | rfl | rfl | rfl | rfl | rfl | rfl
  all_goals first | rfl | exact absurd hid (by decide)

end Rule

section Disabled

variable (settings : RuleSettings) (p : Package)

theorem contributions_withDisabled (disabled : List String) {rules : List Rule}
    (h : rules ⊆ Rule.catalog) :
    contributions (settings.withDisabled disabled) p rules = contributions settings p rules := by
  have halike : (settings.withDisabled disabled).SearchAlike settings := ⟨rfl, rfl, rfl⟩
  rw [contributions_flatMap, contributions_flatMap]
  refine List.flatMap_congr fun r hr => ?_
  rw [run_of_searchAlike halike p (h hr) (.inr rfl)]
  rfl

/-- Without some rules, just their contributions are left out. -/
theorem contributions_enabled (disabled : List String) :
    contributions settings p (Rule.enabled disabled) =
      (contributions settings p Rule.catalog).filter (Diagnostic.staysWithout disabled) := by
  rw [contributions_flatMap, contributions_flatMap]
  refine flatMap_filter_of_forall fun r _ d hd => ?_
  obtain ⟨d, hrun, rfl⟩ := List.mem_map.1 hd
  unfold Diagnostic.staysWithout
  rw [settings.ruleId_reported, Rule.ruleId_of_mem_run hrun]

/-- A report of all rules, less the diagnostics of some, is the report without these rules. -/
theorem checkPackage_withDisabled {full : Report}
    (h : checkPackage (settings.withDisabled []) (Rule.enabled []) p = .ok full)
    (disabled : List String) :
    checkPackage (settings.withDisabled disabled) (Rule.enabled disabled) p =
      .ok { full with
        diagnostics := full.diagnostics.filter (Diagnostic.staysWithout disabled) } := by
  have hfacts : ∀ disabled, p.declarations (settings.withDisabled disabled) =
      p.declarations settings :=
    fun disabled =>
      p.declarations_of_searchAlike (s := settings.withDisabled disabled) ⟨rfl, rfl, rfl⟩
  obtain ⟨ds, hsort, rfl⟩ := checkPackage_eq_ok_iff.1 h
  rw [contributions_withDisabled settings p [] (enabled_subset_catalog []),
    Rule.enabled_nil] at hsort
  rw [checkPackage_eq, contributions_withDisabled settings p disabled
    (enabled_subset_catalog disabled), contributions_enabled,
      sortDiagnostics_filter hsort, hfacts, hfacts]
  rfl

/-- Where locale bundles are not wanted, the rule about them contributes nothing, and the others
contribute the same. -/
theorem contributions_withoutLocale {rules : List Rule} (h : rules ⊆ Rule.catalog) :
    contributions { settings with requireLocale := false } p rules =
      contributions settings p (rules.filter fun r => !Rule.sameId r.id "P2") := by
  have halike : RuleSettings.SearchAlike { settings with requireLocale := false } settings :=
    ⟨rfl, rfl, rfl⟩
  rw [contributions_flatMap, contributions_flatMap]
  rw [← flatMap_filter_of_eq_nil (q := fun r => !Rule.sameId r.id "P2") fun r hr hq => ?_]
  · refine List.flatMap_congr fun r hr => ?_
    obtain ⟨hr, hq⟩ := List.mem_filter.1 hr
    have hother : r.id ≠ "P2" := fun heq => by simp [heq, Rule.sameId] at hq
    rw [run_of_searchAlike halike p (h hr) (.inl hother)]
    rfl
  · have hcheck := Rule.check_of_id_localeBundles (h hr) (by simpa using hq)
    unfold Rule.run
    rw [hcheck]
    rfl

theorem checkPackage_withoutLocale :
    checkPackage { settings with requireLocale := false } (Rule.enabled settings.disabled) p =
      checkPackage (settings.withDisabled ("P2" :: settings.disabled))
        (Rule.enabled ("P2" :: settings.disabled)) p := by
  have hfacts : p.declarations { settings with requireLocale := false } =
      p.declarations (settings.withDisabled ("P2" :: settings.disabled)) :=
        p.declarations_of_searchAlike ⟨rfl, rfl, rfl⟩
  rw [checkPackage_eq, checkPackage_eq, hfacts, contributions_withoutLocale settings p
    (enabled_subset_catalog _), contributions_withDisabled settings p _ (enabled_subset_catalog _),
      Rule.enabled_cons]

/-- To disable rules is to leave out their diagnostics: with any rules disabled, a run reports what
a run with none disabled does, in the same order and with the same counters, less the diagnostics
whose rule id is, whatever its case, a disabled one. Where no line number has too many digits, there
is such a report. Not to ask for locale bundles is to disable the rule about them. -/
theorem disabled_rules_filtered :
    (∀ full, checkPackage (settings.withDisabled []) (Rule.enabled []) p = .ok full → ∀ disabled,
      checkPackage (settings.withDisabled disabled) (Rule.enabled disabled) p =
        .ok { full with
          diagnostics := full.diagnostics.filter fun d =>
            !disabled.any fun id =>
              d.ruleId.toList.map Char.toUpper == id.toList.map Char.toUpper }) ∧
    ((∀ a ∈ p.artifacts, a.Numbered) →
      ∃ full, checkPackage (settings.withDisabled []) (Rule.enabled []) p = .ok full) ∧
    checkPackage { settings with requireLocale := false } (Rule.enabled settings.disabled) p =
      checkPackage (settings.withDisabled ("P2" :: settings.disabled))
        (Rule.enabled ("P2" :: settings.disabled)) p :=
  ⟨fun _ hfull disabled => checkPackage_withDisabled settings p hfull disabled,
    fun hp => exists_report hp (settings.withDisabled []) (enabled_subset_catalog []),
    checkPackage_withoutLocale settings p⟩

end Disabled

/-- The syntax error of the empty bundle is not reported if its rule is disabled, in small
letters. -/
theorem disabled_rules_filtered_emptyBundle :
    (∀ a ∈ emptyBundlePackage.artifacts, a.Numbered) ∧ ∃ full others,
    checkPackage {} (Rule.enabled []) emptyBundlePackage = .ok full ∧
      checkPackage { disabled := ["j1"] } (Rule.enabled ["j1"]) emptyBundlePackage = .ok others ∧
      (∃ d ∈ full.diagnostics, d.ruleId = "J1") ∧ ∀ d ∈ others.diagnostics, d.ruleId ≠ "J1" := by
  obtain ⟨hfilter, hreport, _⟩ := disabled_rules_filtered {} emptyBundlePackage
  obtain ⟨full, hfull⟩ := hreport numbered_emptyBundle
  obtain ⟨d, hd, hid, _⟩ := warned_emptyBundle hfull
  refine ⟨numbered_emptyBundle, full, _, hfull, hfilter full hfull ["j1"],
    ⟨d, hd, hid⟩, fun e he hother => ?_⟩
  have hkept := (List.mem_filter.1 he).2
  rw [hother] at hkept
  exact absurd hkept (by decide)

end TwinNode
