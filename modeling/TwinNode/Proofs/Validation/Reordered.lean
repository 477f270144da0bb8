import TwinNode.Proofs.FileSystem.Reordered
import TwinNode.Proofs.Rule.ReorderedNames
import TwinNode.Proofs.Validation.Batch

namespace TwinNode

open TwinNode.Json (Clean Simple Value)
open TwinNode.Json.Value (reordered_object_iff)

/-! ## Diagnostics that are about the same -/

theorem LocationKey.error_of_ofLocation {location : Option String} {e : OrderError}
    (h : ofLocation location = .error e) :
    e = .longNumber := by
  unfold ofLocation at h
  split at h
  · cases h
  · split at h
    · cases h
    · dsimp only at h
      split at h
      · cases h
      · exact (Except.error.inj h).symm

theorem Rule.exists_ruleKey {r : Rule} (hr : r ∈ catalog) : ∃ key, RuleKey.ofId r.id = .ok key :=
  -- The id has nothing to do with any package.
  (orderable_of_mem_catalog (p := emptyPackage) (List.forall_mem_nil _) {} r hr).id

theorem error_of_sortDiagnostics {ds : List Diagnostic} {e : OrderError}
    (h : sortDiagnostics ds = .error e) :
    ∃ d ∈ ds, d.key = .error e := by
  unfold sortDiagnostics sortByKey at h
  cases hkeyed : ds.mapM fun d => d.key.map (·, d) with
  | ok keyed =>
    rw [hkeyed] at h
    cases h
  | error e' =>
    rw [hkeyed] at h
    obtain rfl := Except.error.inj h
    obtain ⟨d, hd, herror⟩ := mapM_eq_error hkeyed
    refine ⟨d, hd, ?_⟩
    cases hkey : d.key with
    | ok k =>
      rw [hkey] at herror
      cases herror
    | error e'' =>
      rw [hkey] at herror
      exact congrArg Except.error (Except.error.inj herror)

section Sketches

variable {ds es : List Diagnostic} (h : (ds.map Diagnostic.sketch).Perm (es.map Diagnostic.sketch))
include h

theorem keys_of_sketch (hkeys : ∀ d ∈ ds, ∃ k, d.key = .ok k) : ∀ d ∈ es, ∃ k, d.key = .ok k := by
  intro e he
  obtain ⟨d, hd, hsketch⟩ := List.mem_map.1 (h.mem_iff.2 (List.mem_map_of_mem he))
  obtain ⟨k, hk⟩ := hkeys d hd
  have hkey : (d.key.map fun _ => ()) = e.key.map fun _ => () := (Prod.mk.inj hsketch).2
  rw [hk] at hkey
  cases he' : e.key with
  | ok l => exact ⟨l, rfl⟩
  | error e' =>
    rw [he'] at hkey
    cases hkey

theorem outlines_of_sketch : (ds.map Diagnostic.outline).Perm (es.map Diagnostic.outline) := by
  have hfirst := h.map (·.1)
  rwa [List.map_map, List.map_map] at hfirst

/-- Both lists can be put in order, or neither. -/
theorem sortDiagnostics_sketch (hlong : ∀ d ∈ ds ++ es, ∀ e, d.key = .error e → e = .longNumber) :
    EndAlike (fun sorted sorted' => (sorted.map Diagnostic.outline).Perm
      (sorted'.map Diagnostic.outline)) (sortDiagnostics ds) (sortDiagnostics es) := by
  cases hds : sortDiagnostics ds with
  | ok sorted =>
    choose! key hkey using keys_of_sketch h (key_of_sortByKey hds)
    rw [sortDiagnostics_eq hkey]
    refine .ok (((sortByKey_perm hds).map _).trans ((outlines_of_sketch h).trans ?_))
    exact ((List.mergeSort_perm es _).map _).symm
  | error e =>
    obtain ⟨d, hd, herror⟩ := error_of_sortDiagnostics hds
    cases hes : sortDiagnostics es with
    | ok sorted =>
      obtain ⟨k, hk⟩ := keys_of_sketch h.symm (key_of_sortByKey hes) d hd
      rw [hk] at herror
      cases herror
    | error e' =>
      obtain ⟨d', hd', herror'⟩ := error_of_sortDiagnostics hes
      rw [hlong d (List.mem_append_left _ hd) e herror,
        hlong d' (List.mem_append_right _ hd') e' herror']
      exact .error _

end Sketches

theorem RuleSettings.sketch_reported (settings : RuleSettings) (d : Diagnostic) :
    (settings.reported d).sketch =
      ((if settings.strict then .error else d.sketch.1.1, d.sketch.1.2), d.sketch.2) := by
  unfold Diagnostic.sketch
  rw [settings.key_reported]
  unfold reported
  split <;> rfl

/-! ## Reports -/

/-- Two reports with the same outcome, on one root: their diagnostics are about the same. -/
structure Report.SameOutcome (r other : Report) : Prop where
  root : r.root = other.root
  passed : r.passed = other.passed
  exitCode : r.exitCode = other.exitCode
  counters : r.counters = other.counters
  invocationError : r.invocationError = other.invocationError
  diagnostics :
    (r.diagnostics.map Diagnostic.outline).Perm (other.diagnostics.map Diagnostic.outline)

theorem Report.SameOutcome.refl (r : Report) : r.SameOutcome r := ⟨rfl, rfl, rfl, rfl, rfl, .refl _⟩

/-- The verdict and the exit code depend on what the diagnostics are about only. -/
theorem Report.sameOutcome_of_outlines {r other : Report} (hroot : r.root = other.root)
    (hcounters : r.counters = other.counters) (herror : r.invocationError = other.invocationError)
    (h : (r.diagnostics.map Diagnostic.outline).Perm (other.diagnostics.map Diagnostic.outline)) :
    r.SameOutcome other := by
  have hseverities : ∀ ds : List Diagnostic, ds.all (·.severity ≠ .error) =
      (ds.map Diagnostic.outline).all (·.1 ≠ .error) := by
    intro ds
    rw [List.all_map]
    rfl
  have hpassed : r.passed = other.passed := by
    unfold passed
    rw [herror, hseverities, hseverities, h.all_eq]
  refine ⟨hroot, hpassed, ?_, hcounters, herror, h⟩
  unfold exitCode
  rw [herror, hpassed]

section Packages

variable {p other : Package} (h : p.Reordered other) (settings : RuleSettings)
include h

theorem packageCounters_reordered :
    packageCounters p (p.declarations settings) =
      packageCounters other (other.declarations settings) := by
  have hkinds : p.artifacts.map (·.kind) = other.artifacts.map (·.kind) :=
    map_eq_of_forall₂ h.artifacts fun a _ b hab => hab.kind_eq
  have hperKind : ∀ artifacts : List Artifact,
      artifacts.foldl (fun counters a => addCount counters a.kind.counter 1) [] =
        (artifacts.map (·.kind)).foldl
          (fun counters kind => addCount counters kind.counter 1) [] := by
    intro artifacts
    rw [List.foldl_map]
  unfold packageCounters
  rw [hperKind, hperKind, hkinds, h.units_reordered.length_eq,
    (h.identities_perm settings).length_eq]

variable {rules : List Rule} (hrules : rules ⊆ Rule.catalog)
include hrules

theorem contributions_reordered : ((contributions settings p rules).map Diagnostic.sketch).Perm
    ((contributions settings other rules).map Diagnostic.sketch) := by
  let reported (s : (Severity × String × DiagnosticKind × String) × Except OrderError Unit) :=
    ((if settings.strict then Severity.error else s.1.1, s.1.2), s.2)
  have hreported : ∀ ds : List Diagnostic,
      (ds.map settings.reported).map Diagnostic.sketch =
        (ds.map Diagnostic.sketch).map reported := by
    intro ds
    rw [List.map_map, List.map_map]
    exact List.map_congr_left fun d _ => settings.sketch_reported d
  rw [contributions_flatMap, contributions_flatMap, List.map_flatMap, List.map_flatMap]
  refine List.Perm.flatMap_left _ fun r hr => ?_
  rw [hreported, hreported]
  exact (Rule.run_reordered h settings r (hrules hr)).map reported

omit h in
/-- Only a number that is too long keeps a contribution of the catalog out of the order. -/
theorem error_of_mem_contributions {d : Diagnostic} (hd : d ∈ contributions settings p rules)
    {e : OrderError} (he : d.key = .error e) : e = .longNumber := by
  rw [contributions_flatMap] at hd
  obtain ⟨r, hr, hd⟩ := List.mem_flatMap.1 hd
  obtain ⟨d, hrun, rfl⟩ := List.mem_map.1 hd
  obtain ⟨key, hkey⟩ := Rule.exists_ruleKey (hrules hr)
  rw [settings.key_reported] at he
  unfold Diagnostic.key at he
  rw [Rule.ruleId_of_mem_run hrun, hkey] at he
  cases hplace : LocationKey.ofLocation d.location with
  | ok place =>
    rw [hplace] at he
    cases he
  | error e' =>
    rw [hplace] at he
    exact (Except.error.inj he).symm.trans (LocationKey.error_of_ofLocation hplace)

theorem checkPackage_reordered :
    EndAlike Report.SameOutcome (checkPackage settings rules p)
      (checkPackage settings rules other) := by
  rw [checkPackage_eq, checkPackage_eq]
  refine (sortDiagnostics_sketch (contributions_reordered h settings hrules)
    fun d hd e he => ?_).map fun ds es hperm =>
    Report.sameOutcome_of_outlines h.root (packageCounters_reordered h settings) rfl hperm
  rcases List.mem_append.1 hd with hd | hd
  · exact error_of_mem_contributions settings hrules hd he
  · exact error_of_mem_contributions settings hrules hd he

end Packages

theorem validateRoot_alike {fs other : FileSystem} (h : fs.Reordered other)
    (settings : Settings) (root : String) :
    EndAlike Report.SameOutcome (validateRoot fs settings root)
      (validateRoot other settings root) := by
  have hdiscover :=
    discover_reordered h (Path.Location.ofString root) settings.exclude settings.maxWorkers
  unfold validateRoot
  generalize discover fs (Path.Location.ofString root) settings.exclude settings.maxWorkers = run,
    discover other (Path.Location.ofString root) settings.exclude settings.maxWorkers =
      run' at hdiscover
  cases hdiscover with
  | error e =>
    cases e with
    | invocation _ problem => exact .ok (.refl _)
    | fault f => exact .error _
  | @ok p q hp =>
    have hcheck :=
      checkPackage_reordered hp settings.rules (enabled_subset_catalog settings.rules.disabled)
    dsimp only
    generalize checkPackage settings.rules (Rule.enabled settings.rules.disabled) p = report,
      checkPackage settings.rules (Rule.enabled settings.rules.disabled) q = report' at hcheck
    cases hcheck with
    | error e => exact .error _
    | ok hsame => exact .ok ⟨rfl, hsame.passed, hsame.exitCode, hsame.counters,
      hsame.invocationError, hsame.diagnostics⟩

/-- The order of the members in JSON files has no effect on the outcome for a root: the reports have
the same verdict, exit code and counters, and their diagnostics are about the same; or there is no
report for the same reason. There are reports unless the root cannot be looked up or a JSON file is
too much to be read. -/
theorem validateRoot_reordered {fs other : FileSystem} (h : fs.Reordered other)
    (settings : Settings) (root : String) :
    EndAlike Report.SameOutcome (validateRoot fs settings root) (validateRoot other settings root) ∧
      (fs.Sized → 1 ≤ settings.maxWorkers → ¬fs.Unanswerable settings.exclude root →
        ∃ report report', validateRoot fs settings root = .ok report ∧
          validateRoot other settings root = .ok report' ∧
          report.SameOutcome report') := by
  have halike := validateRoot_alike h settings root
  refine ⟨halike, fun hsized hworkers hanswerable => ?_⟩
  obtain ⟨report, hreport⟩ := exists_report_of_root hsized hworkers hanswerable
  rw [hreport] at halike
  generalize hother : validateRoot other settings root = run at halike
  cases halike with
  | ok hsame => exact ⟨report, _, hreport, rfl, hsame⟩

theorem read_written {nesting room : Nat} {v : Value} (h : Simple nesting v)
    (hroom : nesting ≤ room) :
    Json.read room (Text.readText (Text.encode v.pretty.toList)) = .ok v := by
  have hunix : Text.Unix v.pretty.toList := Json.unix_indented h 0
  rw [Text.readText_encode hunix, Json.read_pretty h hroom]

theorem besideEmpty_reordered {name : String} {bytes others : Bytes} (hname : JsonPlace ["a", name])
    (h : JsonReordered usualRoom bytes others) :
    (besideEmpty name bytes).Reordered (besideEmpty name others) :=
  ⟨.cons ⟨rfl, .inr ⟨hname, h⟩⟩ .nil, rfl, rfl, rfl⟩

def descriptorOf (entries : List (String × Value)) : Value :=
  .object [("node-red", .object [("nodes", .object entries)])]

theorem simple_descriptorOf {nesting : Nat} {entries : List (String × Value)}
    (h : Simple nesting (.object entries)) :
    Simple (nesting + 2) (descriptorOf entries) :=
  .entry (by decide) (.entry (by decide) h)

theorem descriptorOf_reordered {entries others : List (String × Value)} (h : entries.Perm others) :
    (descriptorOf entries).Reordered (descriptorOf others) := by
  have hentry : ∀ (key : String) {v w : Value}, v.Reordered w →
      Value.Reordered (.object [(key, v)]) (.object [(key, w)]) :=
    fun key v w hvalue => reordered_object_iff.2 ⟨[(key, w)], .cons ⟨rfl, hvalue⟩ .nil, .refl _⟩
  exact hentry _ (hentry _ (.object rfl (List.forall₂_same.2 fun v _ => .refl v) h))

def twoEntries : List (String × Value) := [("a", .str "a.js"), ("b", .str "b.js")]

theorem simple_twoEntries : Simple 1 (.object twoEntries) ∧ Simple 1
    (.object twoEntries.reverse) := by
  have hkeys : ∀ m ∈ twoEntries, Clean m.1 := by decide
  have hvalues : ∀ m ∈ twoEntries, Simple 0 m.2 :=
    List.forall_mem_cons.2 ⟨.str (by decide), List.forall_mem_singleton.2 (.str (by decide))⟩
  exact ⟨.object (by simp [twoEntries]) (by decide) hkeys hvalues,
    .object (by simp [twoEntries]) (by decide) (fun m hm => hkeys m (List.mem_reverse.1 hm))
      fun m hm => hvalues m (List.mem_reverse.1 hm)⟩

def written (entries : List (String × Value)) : Bytes :=
  Text.encode (descriptorOf entries).pretty.toList

/-- The entries of a node map can be swapped. -/
theorem validateRoot_reordered_twoEntries :
    (besideEmpty descriptorName (written twoEntries)).Reordered
      (besideEmpty descriptorName (written twoEntries.reverse)) ∧
    ∃ report report', validateRoot (besideEmpty descriptorName (written twoEntries)) {} "a" =
      .ok report ∧
      validateRoot (besideEmpty descriptorName (written twoEntries.reverse)) {} "a" = .ok report' ∧
      report.SameOutcome report' := by
  obtain ⟨hsimple, hsimple'⟩ := simple_twoEntries
  have hroom : 3 ≤ usualRoom := by decide
  have hread := read_written (simple_descriptorOf hsimple) hroom
  have hread' := read_written (simple_descriptorOf hsimple') hroom
  have hplace : JsonPlace ["a", descriptorName] := ⟨descriptorName, rfl, by decide⟩
  have hreordered := besideEmpty_reordered hplace
    ⟨_, _, hread, hread', descriptorOf_reordered (List.reverse_perm twoEntries).symm⟩
  have hsized : (besideEmpty descriptorName (written twoEntries)).Sized := by
    refine List.forall_mem_singleton.2 (countableBytes_of_lt ?_)
    have hunix : Text.Unix (descriptorOf twoEntries).pretty.toList :=
      Json.unix_indented (simple_descriptorOf hsimple) 0
    rw [written, Text.length_encode hunix]
    decide +kernel
  have hanswerable := answerable_descriptor (written twoEntries) fun e he => by
    cases hread.symm.trans he
  exact ⟨hreordered, (validateRoot_reordered hreordered {} "a").2 hsized
    Settings.accepted_default.workers hanswerable⟩

end TwinNode
