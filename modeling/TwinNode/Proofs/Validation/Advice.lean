import TwinNode.Proofs.Rule.Advice
import TwinNode.Proofs.Rule.Reported
import TwinNode.Proofs.Validation.Disabled

/-! A diagnostic about a missing file says where the file is missing. The file is added
there, with any content that can be read, and the root is validated again. Then the
diagnostic is gone, unless the name or the directory of the file makes another kind of
artifact of it than the one that is missing. -/

namespace TwinNode

open TwinNode.Rule

/-- The finding that a diagnostic without a place in its file was made of. -/
def Diagnostic.finding (d : Diagnostic) : Finding where
  path := d.path
  message := d.message

theorem Package.AsksFor.plain {p : Package} {f : Finding} {kind : ArtifactKind}
    (h : p.AsksFor f kind) :
    f = { path := f.path, message := f.message } := by
  cases kind with
  | descriptor => rw [h.2]; rfl
  | hostStub =>
    obtain ⟨_, _, _, _, rfl⟩ := h
    rfl
  | deviceScript | manifest =>
    obtain ⟨_, _, _, rfl⟩ := h
    rfl
  | editorMarkup | localeBundle => exact h.elim

theorem RuleSettings.finding_reported (settings : RuleSettings) (r : Rule) {f : Finding}
    (h : f = { path := f.path, message := f.message }) :
    (settings.reported (r.diagnostic f)).finding = f := by
  rw [h]
  unfold reported
  split <;> rfl

section Report

variable {settings : RuleSettings} {disabled : List String} {p : Package} {report : Report}
  (hreport : checkPackage settings (Rule.enabled disabled) p = .ok report)
include hreport

/-- What the report says in the name of a rule is what this rule found, if it is enabled. -/
theorem mem_diagnostics_iff {r : Rule} (hr : r ∈ Rule.catalog)
    {findings : CheckContext → List Finding} (hcheck : r.check = Rule.total findings)
    {d : Diagnostic} (hd : d.ruleId = r.id) : d ∈ report.diagnostics ↔
      r ∈ Rule.enabled disabled ∧ ∃ f ∈ findings (p.context settings),
        settings.reported (r.diagnostic f) = d := by
  have hrun : (r.run (p.context settings)).map settings.reported =
      (findings (p.context settings)).map fun f => settings.reported (r.diagnostic f) := by
    rw [Rule.run_total hcheck, List.map_map]
    rfl
  rw [(diagnostics_perm hreport).mem_iff, contributions_flatMap, List.mem_flatMap]
  constructor
  · rintro ⟨s, hs, hin⟩
    have hid : s.id = r.id := by
      obtain ⟨e, he, rfl⟩ := List.mem_map.1 hin
      rw [← hd, settings.ruleId_reported, Rule.ruleId_of_mem_run he]
    have nodup_ids : (Rule.catalog.map Rule.id).Nodup := by decide
    obtain rfl := List.inj_on_of_nodup_map nodup_ids (enabled_subset_catalog disabled hs) hr hid
    rw [hrun] at hin
    exact ⟨hs, List.mem_map.1 hin⟩
  · rintro ⟨hs, hfound⟩
    refine ⟨r, hs, ?_⟩
    rw [hrun]
    exact List.mem_map.2 hfound

/-- A diagnostic that a file is missing is reported if the rule about mandatory files asks for the
file. -/
theorem mem_diagnostics_asked (hunits : p.units = groupUnits p.artifacts)
    {r : Rule} (hr : r ∈ Rule.catalog) (hcheck : r.check = Rule.total mandatoryArtifacts)
    {d : Diagnostic} (hd : d.ruleId = r.id) (hpath : d.path ≠ ".") :
    d ∈ report.diagnostics ↔
      r ∈ Rule.enabled disabled ∧ settings.reported (r.diagnostic d.finding) = d ∧
      ∃ kind, p.AsksFor d.finding kind := by
  have hfinding : ∀ {f : Finding}, settings.reported (r.diagnostic f) = d → f.path ≠ "." := by
    rintro f rfl
    intro hf
    refine hpath ?_
    unfold RuleSettings.reported
    split <;> exact hf
  rw [mem_diagnostics_iff hreport hr hcheck hd]
  refine and_congr_right fun _ => ⟨?_, ?_⟩
  · rintro ⟨f, hf, heq⟩
    obtain ⟨kind, hasks⟩ := (mem_mandatoryArtifacts hunits settings (hfinding heq)).1 hf
    have hsame : d.finding = f := by rw [← heq, settings.finding_reported r hasks.plain]
    rw [hsame]
    exact ⟨heq, kind, hasks⟩
  · rintro ⟨heq, hasks⟩
    exact ⟨d.finding, (mem_mandatoryArtifacts hunits settings hpath).2 hasks, heq⟩

end Report

/-- A root with a report that is not about the root itself is that of a package. -/
theorem package_of_report {fs : FileSystem} {settings : Settings} {root : String} {report : Report}
    (h : validateRoot fs settings root = .ok report) {d : Diagnostic} (hd : d ∈ report.diagnostics)
    (hrule : d.ruleId ≠ "INV") :
    ∃ p, discover fs (Path.Location.ofString root) settings.exclude settings.maxWorkers = .ok p ∧
      ∃ checked, checkPackage settings.rules (Rule.enabled settings.rules.disabled) p =
        .ok checked ∧
        checked.diagnostics = report.diagnostics := by
  unfold validateRoot at h
  split at h
  · obtain rfl := Except.ok.inj h
    rw [List.mem_singleton.1 hd] at hrule
    exact absurd rfl hrule
  · cases h
  · next p hdiscover =>
    split at h
    · cases h
    · next checked hcheck =>
      obtain rfl := Except.ok.inj h
      exact ⟨p, hdiscover, checked, hcheck, rfl⟩

/-- What the rule about mandatory files asks for is reported with default settings. -/
theorem exists_report_asking {fs : FileSystem} (hsized : fs.Sized) {root : String} {p : Package}
    (hp : discover fs (Path.Location.ofString root) ({} : Settings).exclude
      ({} : Settings).maxWorkers = .ok p) {f : Finding}
    {kind : ArtifactKind} (hasks : p.AsksFor f kind) (hpath : f.path ≠ ".")
    {r : Rule} (hr : r ∈ Rule.catalog) (hcheck : r.check = Rule.total mandatoryArtifacts) :
    ∃ report, validateRoot fs {} root = .ok report ∧
      r.diagnostic f ∈ report.diagnostics := by
  obtain ⟨_, _, _, _, hunits⟩ := discover_eq_ok hp
  obtain ⟨checked, hchecked⟩ := exists_report (numbered_of_discover hsized hp) {}
    (enabled_subset_catalog ({} : Settings).rules.disabled)
  have henabled : r ∈ Rule.enabled ({} : Settings).rules.disabled := by
    rw [Rule.enabled_nil]
    exact hr
  have hin : r.diagnostic f ∈ checked.diagnostics := by
    rw [mem_diagnostics_iff hchecked hr hcheck rfl]
    exact ⟨henabled, f, (mem_mandatoryArtifacts hunits {} hpath).2 ⟨kind, hasks⟩, rfl⟩
  refine ⟨{ checked with root := root }, ?_, hin⟩
  unfold validateRoot
  rw [hp]
  dsimp only
  rw [hchecked]

theorem exists_mandatoryRule : ∃ r ∈ Rule.catalog, r.id = "P1" ∧
    r.check = Rule.total mandatoryArtifacts :=
  ⟨_, .tail _ (.head _), rfl, rfl⟩

/-- With a file added where a diagnostic says that one is missing, the diagnostic is gone, whatever
the file holds, with two exceptions. The name of the host stub of a device script may itself be that
of a device script, and a manifest in a directory for languages is a locale bundle. The place of the
file is not excluded, no other file below the root has a backslash in its names, and all that is
found can be read. -/
theorem advice_followed_iff {fs : FileSystem} {settings : Settings} {root : String} {place : Place}
    (hroot : checkRoot fs (Path.Location.ofString root) = .ok place)
    (hback : ∀ names ∈ fs.filesBelow place, ∀ n ∈ names, '\\' ∉ n.toList) {report : Report}
    (hreport : validateRoot fs settings root = .ok report) {d : Diagnostic}
    (hd : d ∈ report.diagnostics) (hrule : d.ruleId = "P1") (hpath : d.path ≠ ".")
    (hexclude : Glob.excludesFile settings.exclude d.path = false)
    (hnew : fs.isFile (place ++ Path.segments d.path) = false) {bytes : Bytes}
    (hreads : JsonFile d.path → ∀ e, Json.read fs.room (Text.readText bytes) ≠ .error (.excess e))
    (hnamed : (fs.write (place ++ Path.segments d.path) bytes).Named)
    (hsized : (fs.write (place ++ Path.segments d.path) bytes).Sized)
    (hreadable : (fs.write (place ++ Path.segments d.path) bytes).Readable settings.exclude root) :
    ∃ p kind,
      discover fs (Path.Location.ofString root) settings.exclude settings.maxWorkers = .ok p ∧
      p.AsksFor d.finding kind ∧
      ∃ report', validateRoot (fs.write (place ++ Path.segments d.path) bytes) settings root =
        .ok report' ∧
        (d ∈ report'.diagnostics ↔
          kind = .hostStub ∧ Path.hasSuffix Path.deviceScriptSuffix d.path = true ∨
          kind = .manifest ∧ localesDirectory ∈ Path.segments (Path.directory d.path)) := by
  obtain ⟨r, hr, hid, hcheck⟩ := exists_mandatoryRule
  rw [← hid] at hrule
  obtain ⟨p, hp, checked, hchecked, hsame⟩ :=
    package_of_report hreport hd (by rw [hrule, hid]; decide)
  obtain ⟨_, _, _, _, hunits⟩ := discover_eq_ok hp
  rw [← hsame, mem_diagnostics_asked hchecked hunits hr hcheck hrule hpath] at hd
  obtain ⟨henabled, hreported, kind, hasks⟩ := hd
  have hnamed' := FileSystem.Named.of_write hnew bytes hnamed
  have hfindable : Findable settings.exclude d.path :=
    hasks.findable hnamed' hback hp hroot hexclude
  have hroot' := FileSystem.checkRoot_write hnew bytes hroot
  have hexcess : ¬(fs.write (place ++ Path.segments d.path) bytes).HoldsExcess place d.path := by
    rintro ⟨hjson, content, hread, e, hexcess⟩
    have hne : Path.segments d.path ≠ [] := by
      obtain ⟨above, hsegments⟩ := Path.segments_eq_append_name d.path
      simp [hsegments]
    rw [FileSystem.eq_of_read_written hne (Path.join_segments d.path) hnew hnamed hread] at hexcess
    exact hreads hjson e hexcess
  obtain ⟨p', hp'⟩ :=
    discover_added hnew hfindable bytes hnamed' hback hroot hp (hreadable place hroot') hexcess
  obtain ⟨_, _, _, _, hunits'⟩ := discover_eq_ok hp'
  obtain ⟨checked', hchecked'⟩ := exists_report (numbered_of_discover hsized hp') settings.rules
    (enabled_subset_catalog settings.rules.disabled)
  have hreport' : validateRoot (fs.write (place ++ Path.segments d.path) bytes) settings root =
      .ok { checked' with root := root } := by
    unfold validateRoot
    rw [hp']
    dsimp only
    rw [hchecked']
  refine ⟨p, kind, hp, hasks, _, hreport', ?_⟩
  show d ∈ checked'.diagnostics ↔ _
  rw [mem_diagnostics_asked hchecked' hunits' hr hcheck hrule hpath,
    and_iff_right henabled, and_iff_right hreported]
  exact asksFor_added_iff hnew hfindable hroot hp' hnamed' hback hp hasks rfl

theorem discover_loneScript : discover loneScript (Path.Location.ofString "/")
    ({} : Settings).exclude ({} : Settings).maxWorkers =
      .ok ⟨"/", [emptyDevice "a.mcu.js"], groupUnits [emptyDevice "a.mcu.js"]⟩ := by
  have hroot : checkRoot loneScript (Path.Location.ofString "/") = .ok [] := by rfl
  have hfound : foundFiles loneScript ({} : Settings).exclude [] = ["a.mcu.js"] :=
    sortPaths_eq (.refl _) (by decide)
  exact discover_of_artifacts none [emptyDevice "a.mcu.js"] hroot (by decide) hfound rfl (by rfl)
    (List.forall_mem_singleton.2 (by rfl)) (List.pairwise_singleton _ _)

/-- A device script without a host stub gets one. -/
theorem advice_followed_loneScript :
    ∃ report d, validateRoot loneScript {} "/" = .ok report ∧ d ∈ report.diagnostics ∧
    d.ruleId = "P1" ∧ d.path = "a.js" ∧
      ∃ report', validateRoot (loneScript.write ["a.js"] []) {} "/" = .ok report' ∧
        d ∉ report'.diagnostics := by
  have hsized : loneScript.Sized := List.forall_mem_singleton.2 (countableBytes_of_lt (by decide))
  have hunit :=
    unitOf_mem_units discover_loneScript (List.mem_singleton_self (emptyDevice "a.mcu.js")) rfl
  have hasks : Package.AsksFor ⟨"/", [emptyDevice "a.mcu.js"], groupUnits [emptyDevice "a.mcu.js"]⟩
      (noStubFor (emptyDevice "a.mcu.js")) .hostStub := ⟨_, hunit, _, by rfl, rfl⟩
  obtain ⟨r, hr, hid, hcheck⟩ := exists_mandatoryRule
  obtain ⟨report, hreport, hd⟩ :=
    exists_report_asking hsized discover_loneScript hasks (by decide) hr hcheck
  obtain ⟨d, hd, hid, hpath⟩ : ∃ d ∈ report.diagnostics, d.ruleId = "P1" ∧ d.path = "a.js" :=
    ⟨_, hd, hid, by rfl⟩
  have hplace : [] ++ Path.segments d.path = ["a.js"] := by
    rw [hpath]
    rfl
  have hnew : loneScript.isFile ["a.js"] = false := by rfl
  have hnamed : (loneScript.write ["a.js"] []).Named := by decide
  have hsized' : (loneScript.write ["a.js"] []).Sized :=
    List.forall_mem_cons.2 ⟨countableBytes_of_lt (by decide),
      List.forall_mem_singleton.2 (countableBytes_of_lt (by decide))⟩
  have hreadable : (loneScript.write ["a.js"] []).Readable ({} : Settings).exclude "/" := by
    intro place hplace
    have hroot' : checkRoot (loneScript.write ["a.js"] []) (Path.Location.ofString "/") =
        .ok [] := by rfl
    obtain rfl := Except.ok.inj (hroot'.symm.trans hplace)
    have hfound : foundFiles (loneScript.write ["a.js"] []) ({} : Settings).exclude [] =
        ["a.js", "a.mcu.js"] :=
      sortPaths_eq (.swap "a.js" "a.mcu.js" []) (by decide)
    rw [hfound]
    exact List.forall_mem_cons.2 ⟨⟨[], by rfl⟩, List.forall_mem_singleton.2 ⟨[], by rfl⟩⟩
  have hreads : JsonFile d.path → ∀ e, Json.read loneScript.room (Text.readText []) ≠
      .error (.excess e) := by
    rw [hpath]
    exact fun hjson => absurd hjson.2 (by decide)
  have hexclude : Glob.excludesFile ({} : Settings).exclude d.path = false := by
    rw [hpath]
    rfl
  rw [← hplace] at hnew hnamed hsized' hreadable
  obtain ⟨p, kind, -, -, report', hreport', hstays⟩ :=
    advice_followed_iff checkRoot_loneScript backslashless_loneScript hreport hd hid
    (by rw [hpath]; decide) hexclude hnew hreads hnamed hsized' hreadable
  rw [hplace] at hreport'
  refine ⟨report, d, hreport, hd, hid, hpath, report', hreport', ?_⟩
  rw [hstays, hpath]
  rintro (⟨-, hdevice⟩ | ⟨-, hlocales⟩)
  · exact absurd hdevice (by decide)
  · exact absurd hlocales (by decide)

/-- A host stub and a device script in a directory for languages. -/
def localesNode : FileSystem :=
  ⟨[(["locales", "a.js"], []), (["locales", "a.mcu.js"], [])], [], [], usualRoom⟩

def localesNodeArtifacts : List Artifact :=
  [emptyStub "locales/a.js", emptyDevice "locales/a.mcu.js"]

def localesNodePackage : Package := ⟨"/", localesNodeArtifacts, groupUnits localesNodeArtifacts⟩

theorem discover_localesNode : discover localesNode (Path.Location.ofString "/")
    ({} : Settings).exclude ({} : Settings).maxWorkers = .ok localesNodePackage := by
  have hroot : checkRoot localesNode (Path.Location.ofString "/") = .ok [] := by rfl
  have hfound : foundFiles localesNode ({} : Settings).exclude [] =
      ["locales/a.js", "locales/a.mcu.js"] :=
    sortPaths_eq (.refl ["locales/a.js", "locales/a.mcu.js"]) (by decide)
  refine discover_of_artifacts none localesNodeArtifacts hroot (by decide) hfound
    rfl (by rfl) ?_ (by decide)
  exact List.forall_mem_cons.2 ⟨by rfl, List.forall_mem_singleton.2 (by rfl)⟩

def preloadValue : Json.Value := .object [("preload", .str "a")]

theorem simple_preloadValue : Json.Simple 1 preloadValue := .entry (by decide) (.str (by decide))

/-- What a manifest next to the scripts is taken for. -/
def addedBundle : Artifact :=
  ⟨.localeBundle, "locales/manifest.json", preloadValue.pretty.toList, .json preloadValue⟩

theorem unix_addedBundle : Text.Unix addedBundle.text := Json.unix_indented simple_preloadValue 0

def addedManifest : Bytes := Text.encode addedBundle.text

def describedNodePackage : Package :=
  ⟨"/", localesNodeArtifacts ++ [addedBundle], groupUnits (localesNodeArtifacts ++ [addedBundle])⟩

theorem read_localesNode_write (bytes : Bytes) :
    (localesNode.write ["locales", "manifest.json"] bytes).read
      ((Path.Location.mk .top []).append "locales/manifest.json") = .ok bytes := by rfl

theorem loadArtifact_describedNode :
    loadArtifact (localesNode.write ["locales", "manifest.json"] addedManifest) []
    .localeBundle "locales/manifest.json" = .ok addedBundle := by
  have hcontent : addedBundle.Loaded usualRoom :=
    ofText_json rfl (by decide) simple_preloadValue (by decide)
  have hread : (localesNode.write ["locales", "manifest.json"] addedManifest).read
      ((Path.Location.mk .top []).append addedBundle.path) = .ok (Text.encode addedBundle.text) :=
    read_localesNode_write addedManifest
  exact loadArtifact_written (a := addedBundle) hcontent unix_addedBundle hread

theorem discover_describedNode :
    discover (localesNode.write ["locales", "manifest.json"] addedManifest)
    (Path.Location.ofString "/") ({} : Settings).exclude ({} : Settings).maxWorkers =
      .ok describedNodePackage := by
  have hload := loadArtifact_describedNode
  -- The bytes of the manifest are not looked at, only found.
  generalize addedManifest = bytes at hload ⊢
  have hroot : checkRoot (localesNode.write ["locales", "manifest.json"] bytes)
      (Path.Location.ofString "/") = .ok [] := by rfl
  have hfound : foundFiles (localesNode.write ["locales", "manifest.json"] bytes)
    ({} : Settings).exclude [] =
      ["locales/a.js", "locales/a.mcu.js", "locales/manifest.json"] := by
    have hbelow : (localesNode.write ["locales", "manifest.json"] bytes).filesBelow [] =
        [["locales", "a.js"], ["locales", "a.mcu.js"], ["locales", "manifest.json"]] := by rfl
    refine sortPaths_eq ?_ (by decide)
    rw [hbelow]
    exact .of_eq (by decide)
  refine discover_of_artifacts none (localesNodeArtifacts ++ [addedBundle]) hroot (by decide)
    hfound rfl (by rfl) ?_ ?_
  · exact List.forall_mem_cons.2 ⟨by rfl, List.forall_mem_cons.2
      ⟨by rfl, List.forall_mem_singleton.2 hload⟩⟩
  · decide

/-- A manifest is asked for in the directory for languages, and with a well-formed manifest there it
is asked for again. -/
theorem advice_ignored_inLocales : ∃ report d report', validateRoot localesNode
    {} "/" = .ok report ∧
    d ∈ report.diagnostics ∧ d.ruleId = "P1" ∧ d.path = "locales/manifest.json" ∧
      Glob.excludesFile ({} : Settings).exclude d.path = false ∧
        localesNode.isFile ["locales", "manifest.json"] = false ∧
      Json.read localesNode.room (Text.readText addedManifest) = .ok preloadValue ∧
      validateRoot (localesNode.write ["locales", "manifest.json"] addedManifest) {} "/" =
        .ok report' ∧
        d ∈ report'.diagnostics := by
  have hempty : CountableBytes [] := countableBytes_of_lt (by decide)
  have hadded : CountableBytes addedManifest := by
    apply countableBytes_of_lt
    rw [addedManifest, Text.length_encode unix_addedBundle]
    decide
  have hsized : localesNode.Sized :=
    List.forall_mem_cons.2 ⟨hempty, List.forall_mem_singleton.2 hempty⟩
  have hsized' : (localesNode.write ["locales", "manifest.json"] addedManifest).Sized :=
    List.forall_mem_cons.2
      ⟨hempty, List.forall_mem_cons.2 ⟨hempty, List.forall_mem_singleton.2 hadded⟩⟩
  have hstem : '/' ∉ (("locales", "a") : UnitKey).2.toList := by decide
  have hasks :
      localesNodePackage.AsksFor (noManifestFor (unitOf localesNodeArtifacts ("locales", "a")))
        .manifest :=
    (asksFor_manifest_iff discover_localesNode hstem).2 (by rfl)
  have hasks' :
      describedNodePackage.AsksFor (noManifestFor (unitOf localesNodeArtifacts ("locales", "a")))
        .manifest :=
    (asksFor_manifest_iff discover_describedNode hstem).2 (by rfl)
  obtain ⟨r, hr, hid, hcheck⟩ := exists_mandatoryRule
  obtain ⟨report, hreport, hd⟩ :=
    exists_report_asking hsized discover_localesNode hasks (by decide) hr hcheck
  obtain ⟨report', hreport', hd'⟩ :=
    exists_report_asking hsized' discover_describedNode hasks' (by decide) hr hcheck
  have hpath : (r.diagnostic (noManifestFor (unitOf localesNodeArtifacts ("locales", "a")))).path =
      "locales/manifest.json" := by rfl
  have hexclude : Glob.excludesFile ({} : Settings).exclude
      (r.diagnostic (noManifestFor (unitOf localesNodeArtifacts ("locales", "a")))).path =
        false := by
    rw [hpath]
    decide
  have hread : Json.read localesNode.room (Text.readText addedManifest) = .ok preloadValue := by
    rw [addedManifest, Text.readText_encode unix_addedBundle]
    exact Json.read_pretty simple_preloadValue (by decide)
  exact ⟨report, _, report', hreport, hd, hid, hpath, hexclude, by rfl, hread, hreport', hd'⟩

end TwinNode
