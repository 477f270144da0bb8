import TwinNode.Proofs.FileSystem.Addition
import TwinNode.Proofs.Package.Sized
import TwinNode.Proofs.Package.Unreferenced
import TwinNode.Proofs.Rule.Quiet
import TwinNode.Proofs.TwinPackage.Artifacts
import TwinNode.Proofs.Validation.Disabled
import TwinNode.Proofs.Validation.LeftOut

/-! A package is validated without diagnostics, and then one of its JSON files is replaced
by a text with a syntax error. The fault is reported at the artifact with its line and its
column. That nothing else is reported takes two things. No other artifact is read from the
same file, which can only be so with backslashes in names. And if the file is the
descriptor, then what is left of the package without its references is self-contained: host
stubs that only the descriptor made part of it are not all scripts that there were, and none
of those that are left has become that of a manifest. -/

namespace TwinNode

open TwinNode.Rule
open TwinNode.Json (Value)

/-- The diagnostic of an artifact with a syntax error. -/
def syntaxDiagnostic (e : Json.SyntaxError) (a : Artifact) : Diagnostic where
  severity := if a.kind = .localeBundle then .warning else .error
  ruleId := "J1"
  kind := .malformedJson
  message := "Invalid JSON: " ++ e.problem.message
  path := a.path
  location := e.position.location
  hint := some "Fix the JSON syntax error at the reported line and column."

theorem runRules_malformedJson {c : CheckContext} {e : Json.SyntaxError} {artifacts : List Artifact}
    (h : malformedJson c = artifacts.map (syntaxFinding e)) :
    runRules catalog c = artifacts.map (syntaxDiagnostic e) ++ runRules catalog.tail c := by
  unfold runRules catalog
  rw [List.flatMap_cons, List.tail_cons]
  congr 1
  show (malformedJson c).map (Rule.diagnostic _) = _
  rw [h, List.map_map]
  apply List.map_congr_left
  intro a _
  unfold Function.comp diagnostic syntaxFinding syntaxDiagnostic
  by_cases hlocale : a.kind = .localeBundle <;> simp [hlocale, nonempty?]

/-- Without strictness and disabled rules, a report has what all rules find. -/
theorem diagnostics_perm_runRules {p : Package} {report : Report}
    (h : checkPackage ({} : Settings).rules (Rule.enabled ({} : Settings).rules.disabled) p =
      .ok report) :
    report.diagnostics.Perm (runRules catalog (p.context {})) := by
  have hperm := diagnostics_perm h
  rw [Rule.enabled_nil] at hperm
  have hreported : ∀ d ∈ runRules catalog (p.context {}), ({} : RuleSettings).reported d = id d :=
    fun _ _ => rfl
  rwa [contributions, List.map_congr_left hreported, List.map_id] at hperm

theorem mandatoryArtifacts_of_tail {c : CheckContext} (h : runRules catalog.tail c = []) :
    mandatoryArtifacts c = [] := by
  unfold runRules catalog at h
  rw [List.tail_cons, List.flatMap_cons, List.append_eq_nil_iff] at h
  exact List.map_eq_nil_iff.1 h.1

namespace Package.Damageable

variable {p : Package} {files : List String} {x : Damage} (h : p.Damageable files x) {a : Artifact}
  (hquiet : Quiet (p.context {})) (ha : a ∈ p.artifacts) (hhit : x.hits a.path = true)
include h hquiet ha hhit

/-- The faults and what the other rules find are one diagnostic if there is one fault and nothing is
missing. -/
theorem one_fault_iff {ds : List Diagnostic}
    (hperm : ds.Perm ((p.artifacts.filter (x.hits ·.path)).map (syntaxDiagnostic x.error) ++
      runRules catalog.tail ((p.damaged files x).context {}))) :
    ds = [syntaxDiagnostic x.error a] ↔ p.artifacts.countP (x.hits ·.path) = 1 ∧
      SelfContained (p.artifacts.filter (Artifact.keptBy files (x.references p))) := by
  have hin : a ∈ p.artifacts.filter (x.hits ·.path) := List.mem_filter.2 ⟨ha, hhit⟩
  rw [← h.mandatoryArtifacts_damaged_iff hquiet.mandatoryArtifacts, List.countP_eq_length_filter]
  constructor
  · rintro rfl
    have hlength := hperm.length_eq
    have hpos := List.length_pos_of_mem hin
    rw [List.length_singleton, List.length_append, List.length_map] at hlength
    -- The fault takes the one place, so that the other rules find nothing.
    have hrest : (runRules catalog.tail ((p.damaged files x).context {})).length = 0 := by omega
    exact ⟨by omega, mandatoryArtifacts_of_tail (List.length_eq_zero_iff.1 hrest)⟩
  · rintro ⟨hone, hmissing⟩
    obtain ⟨only, honly⟩ := List.length_eq_one_iff.1 hone
    rw [honly] at hin
    rw [h.quiet_but hquiet hmissing, honly, ← List.mem_singleton.1 hin] at hperm
    exact List.perm_singleton.1 hperm

/-- The references are lost if and only if the file with the fault is the descriptor. -/
theorem references_iff (hone : p.artifacts.countP (x.hits ·.path) = 1) :
    SelfContained (p.artifacts.filter (Artifact.keptBy files (x.references p))) ↔
      (a.kind = .descriptor → SelfContained (p.artifacts.filter (Artifact.keptBy files []))) := by
  cases hdescriptor : x.hits descriptorName with
  | true =>
    obtain ⟨d, hd⟩ := Option.isSome_iff_exists.1
      ((mandatoryArtifacts_eq_nil_iff h.units {}).1 hquiet.mandatoryArtifacts).1
    have hin := List.mem_of_find?_eq_some hd
    have hkind : d.kind = .descriptor := by simpa using List.find?_some hd
    rw [List.countP_eq_length_filter, List.length_eq_one_iff] at hone
    obtain ⟨only, honly⟩ := hone
    have hall : ∀ b ∈ p.artifacts, x.hits b.path = true → b = only := by
      intro b hb hhit
      have hin : b ∈ p.artifacts.filter (x.hits ·.path) := List.mem_filter.2 ⟨hb, hhit⟩
      rw [honly] at hin
      exact List.mem_singleton.1 hin
    rw [← h.path_of_descriptor? hd] at hdescriptor
    have hsame : a = d := (hall a ha hhit).trans (hall d hin hdescriptor).symm
    rw [Damage.references, ← h.path_of_descriptor? hd, hdescriptor, if_pos rfl, hsame]
    exact ⟨fun hself _ => hself, fun hself => hself hkind⟩
  | false =>
    have hkind : a.kind ≠ .descriptor := by
      intro hkind
      rw [← h.descriptor a ha hkind, hhit] at hdescriptor
      cases hdescriptor
    refine iff_of_true (h.selfContained_of_miss hdescriptor hquiet.mandatoryArtifacts) fun hk =>
      absurd hk hkind

end Package.Damageable

section Discovered

variable {fs : FileSystem} {root : Path.Location} {exclude : List String} {workers : Int}
  {p : Package} {place : Place} (h : discover fs root exclude workers = .ok p)
  (hroot : checkRoot fs root = .ok place)
include h hroot

section Named

variable (hnamed : fs.Named) (hback : ∀ names ∈ fs.filesBelow place, ∀ n ∈ names, '\\' ∉ n.toList)
  {a : Artifact} (ha : a ∈ p.artifacts) {file : Place}
  (hfile : fs.find ((Path.Location.mk .top place).append a.path) = .ok file)
include hnamed hback ha hfile

/-- Without backslashes in names, an artifact is read from the file below the root that its path
spells. -/
theorem file_of_find : ∃ names, a.path = Path.join names ∧ file = place ++ names := by
  obtain ⟨names, hnames, hpath⟩ :=
    List.mem_map.1 (mem_sortPaths.1 (found_of_mem_artifacts h hroot ha).1)
  have hbelow := List.mem_of_mem_filter hnames
  obtain ⟨hne, hisFile⟩ := FileSystem.isFile_of_mem_filesBelow hbelow
  have hentries := hnamed.entryName_of_isFile hisFile
  rw [normalize_below hback hbelow] at hpath
  refine ⟨names, hpath.symm, ?_⟩
  rw [← hpath, Path.append_join hne fun n hn => hentries n (List.mem_append_right place hn)]
    at hfile
  exact FileSystem.eq_of_find (fun hin => (hentries _ hin).not_dots rfl) hisFile hfile

/-- No two artifacts are read from one file. -/
theorem read_by_one (hsound : fs.Sound) :
    p.artifacts.countP (fun b => fs.find ((Path.Location.mk .top place).append b.path) = .ok file) =
      1 := by
  have hone : p.artifacts.countP (fun b => b.path = a.path && true) = 1 :=
    countP_of_nodup (paths_nodup_of_discover h hroot hsound hback) ha fun _ => true
  rw [← hone]
  apply List.countP_congr
  intro b hb
  simp only [Bool.and_true, decide_eq_true_eq]
  constructor
  · intro hfind
    obtain ⟨names, hpath, hsplit⟩ := file_of_find h hroot hnamed hback hb hfind
    obtain ⟨names', hpath', hsplit'⟩ := file_of_find h hroot hnamed hback ha hfile
    rw [hpath, hpath', List.append_cancel_left (hsplit.symm.trans hsplit')]
  · intro hpath
    rw [hpath, hfile]

end Named

variable {fs' : FileSystem} {x : Damage} {settings : RuleSettings}

/-- A package in which nothing is found about the descriptor, and the damage of a JSON file of
it. -/
theorem damageable_of_quiet (hquiet : descriptorPointsToStub (p.context settings) = [])
    (hjson : ∀ a ∈ p.artifacts, x.hits a.path = true → a.kind.isJson = true)
    (hdone : x.Done fs fs' place) (hroot' : checkRoot fs' root = .ok place)
    (hfound : foundFiles fs' exclude place = foundFiles fs exclude place) :
    p.Damageable (foundFiles fs exclude place) x := by
  obtain ⟨_, _, _, _, hunits⟩ := discover_eq_ok h
  have hpaths : ∀ a ∈ p.artifacts, ∀ b ∈ p.artifacts, a.path = b.path → a = b := fun _ ha _ hb =>
    artifact_eq_of_path h hroot ha hb
  have hnamed := named_stubs hpaths hquiet
  have halone : ∀ {a : Artifact}, classify (siblingsAmong (foundFiles fs exclude place)) [] a.path =
    some a.kind →
      a.keptBy (foundFiles fs exclude place) (x.references p) = true := fun halone =>
    decide_eq_true (classify_mono (List.Subset.refl _) (List.nil_subset _) halone)
  have hdamaged := discover_of_done h hroot hdone hroot' hfound
  refine ⟨hunits, hpaths, fun d hd => (loaded_of_discover h hd).2, hjson, ?kept,
    ?alike, ?device, ?partner⟩
  case kept =>
    intro a ha hnot
    cases hhit : x.hits descriptorName with
    | false =>
      rw [Damage.references, hhit, if_neg Bool.false_ne_true]
      exact keptBy_referenced h hroot ha
    | true =>
      have hstub : a.kind ≠ .hostStub := hnot.resolve_right (by simp [hhit])
      exact halone (alone_of_not_stub h hroot ha hnamed hstub)
  case alike =>
    intro a ha b hb hkind hkind' hkey hkept
    cases hhit : x.hits descriptorName with
    | false =>
      rw [Damage.references, hhit, if_neg Bool.false_ne_true]
      exact keptBy_referenced h hroot hb
    | true =>
      rw [Artifact.keptBy, Damage.references, hhit, if_pos rfl] at hkept
      exact halone (alone_of_unitKey h hroot ha hb hkind hkind' hkey (of_decide_eq_true hkept))
  case device =>
    intro a ha b hb hkind hkind' hkey
    exact halone (alone_of_device h hroot ha hb hkind hkind' hkey)
  case partner =>
    intro m hm hkind
    obtain ⟨b, hb, _, rfl⟩ := Package.mem_damaged.1 hm
    apply exists_script_beside hdamaged hroot' hm hkind
    rw [hfound]
    have hmarkup := alone_of_named h hroot hb hnamed hkind
    exact hmarkup

end Discovered

section Written

variable {fs : FileSystem} (hsound : fs.Sound) (hsized : fs.Sized) {root : String} {clean : Report}
  (hclean : validateRoot fs {} root = .ok clean) (hnone : clean.diagnostics = []) {p : Package}
  (hp : discover fs (Path.Location.ofString root) ({} : Settings).exclude
    ({} : Settings).maxWorkers = .ok p) {place : Place}
  (hroot : checkRoot fs (Path.Location.ofString root) = .ok place)
  {a : Artifact} (ha : a ∈ p.artifacts) (hjson : JsonFile a.path) {file : Place}
  (hfile : fs.find ((Path.Location.mk .top place).append a.path) = .ok file)
  {bytes : Bytes} (hbytes : CountableBytes bytes) {e : Json.SyntaxError}
  (hfault : Json.read fs.room (Text.readText bytes) = .error (.malformed e))

include hclean hnone hp in
theorem quiet_of_clean : Quiet (p.context {}) := by
  unfold validateRoot at hclean
  rw [hp] at hclean
  dsimp only at hclean
  cases hcheck : checkPackage ({} : Settings).rules
    (Rule.enabled ({} : Settings).rules.disabled) p with
  | error e =>
    rw [hcheck] at hclean
    cases hclean
  | ok report =>
    rw [hcheck] at hclean
    obtain rfl := Except.ok.inj hclean
    have hperm := diagnostics_perm_runRules hcheck
    have hnone : report.diagnostics = [] := hnone
    rw [hnone] at hperm
    exact runRules_eq_nil_iff.1 hperm.symm.eq_nil

include hsound hclean hnone hp hroot ha hjson hfile hfault

/-- The package with the damaged file, as it is discovered. -/
theorem discover_damaged :
    p.Damageable (foundFiles fs ({} : Settings).exclude place) (fs.damage place file bytes e) ∧
      discover (fs.write file bytes) (Path.Location.ofString root) ({} : Settings).exclude
        ({} : Settings).maxWorkers =
        .ok (p.damaged (foundFiles fs ({} : Settings).exclude place)
          (fs.damage place file bytes e)) := by
  have hload := (found_of_mem_artifacts hp hroot ha).2.2
  have hisFile := isFile_of_loadArtifact hload hfile
  have hdone : (fs.damage place file bytes e).Done fs (fs.write file bytes) place :=
    done_of_write hsound hisFile hjson hfile hfault
  have hroot' : checkRoot (fs.write file bytes) (Path.Location.ofString root) = .ok place := by
    rw [(FileSystem.samePlaces_write hsound hisFile bytes).checkRoot_eq]
    exact hroot
  have hfound :=
    (FileSystem.samePlaces_write hsound hisFile bytes).foundFiles_eq ({} : Settings).exclude place
  have hkinds : ∀ b ∈ p.artifacts, (fs.damage place file bytes e).hits b.path = true →
      b.kind.isJson = true := by
    intro b hb hhit
    have hkind := (classify_eq_some_iff.1 (found_of_mem_artifacts hp hroot hb).2.1).1
    obtain ⟨⟨kind, hkind', hisJson⟩, _⟩ := hjson.of_find hfile hkind (hits_damage.1 hhit)
    rw [hkind, Option.some.injEq] at hkind'
    rwa [hkind']
  have hquiet := (quiet_of_clean hclean hnone hp).descriptorPointsToStub
  have hdamageable := damageable_of_quiet hp hroot hquiet hkinds hdone hroot' hfound
  have hdiscover := discover_of_done hp hroot hdone hroot' hfound
  exact ⟨hdamageable, hdiscover⟩

include hsized hbytes

/-- There is a report, with the fault of each artifact that is read from the file and what the other
rules find. -/
theorem perm_damaged : ∃ report, validateRoot (fs.write file bytes) {} root = .ok report ∧
    report.diagnostics.Perm ((p.artifacts.filter ((fs.damage place file bytes e).hits ·.path)).map
      (syntaxDiagnostic e) ++ runRules catalog.tail
        ((p.damaged (foundFiles fs ({} : Settings).exclude place)
          (fs.damage place file bytes e)).context {})) := by
  obtain ⟨hdamageable, hdiscover⟩ :=
    discover_damaged hsound hclean hnone hp hroot ha hjson hfile hfault
  have hsized' : (fs.write file bytes).Sized := by
    intro entry hentry
    rcases List.mem_append.1 hentry with hentry | hentry
    · exact hsized entry (List.mem_of_mem_filter hentry)
    · rw [List.mem_singleton.1 hentry]
      exact hbytes
  obtain ⟨report, hreport⟩ :=
    exists_report (numbered_of_discover hsized' hdiscover) ({} : Settings).rules
    (enabled_subset_catalog ({} : Settings).rules.disabled)
  refine ⟨{ report with root := root }, ?_, ?_⟩
  · unfold validateRoot
    rw [hdiscover]
    dsimp only
    rw [hreport]
  · have hfaults := hdamageable.malformedJson_damaged (quiet_of_clean hclean hnone hp).malformedJson
    have hperm := diagnostics_perm_runRules hreport
    rw [runRules_malformedJson hfaults] at hperm
    exact hperm

/-- In a package without diagnostics, a JSON file is replaced by a text with a syntax error. The
fault is reported. It is all that is reported if and only if no other artifact is read from the file
and, where the artifact is the descriptor, the artifacts that need no reference are self-contained.
Without backslashes in names no other artifact is read from it. -/
theorem one_diagnostic_iff : ∃ report, validateRoot (fs.write file bytes) {} root = .ok report ∧
    syntaxDiagnostic e a ∈ report.diagnostics ∧
    (report.diagnostics = [syntaxDiagnostic e a] ↔
      p.artifacts.countP (fun b =>
        fs.find ((Path.Location.mk .top place).append b.path) = .ok file) = 1 ∧
      (a.kind = .descriptor → SelfContained
        (p.artifacts.filter (Artifact.keptBy (foundFiles fs ({} : Settings).exclude place) [])))) ∧
    (fs.Named → (∀ names ∈ fs.filesBelow place, ∀ n ∈ names, '\\' ∉ n.toList) →
      p.artifacts.countP (fun b =>
        fs.find ((Path.Location.mk .top place).append b.path) = .ok file) = 1) := by
  obtain ⟨report, hreport, hperm⟩ :=
    perm_damaged hsound hsized hclean hnone hp hroot ha hjson hfile hbytes hfault
  obtain ⟨hdamageable, _⟩ := discover_damaged hsound hclean hnone hp hroot ha hjson hfile hfault
  have hquiet := quiet_of_clean hclean hnone hp
  have hhit : (fs.damage place file bytes e).hits a.path = true := hits_damage.2 hfile
  have hin : syntaxDiagnostic e a ∈ report.diagnostics := hperm.mem_iff.2
    (List.mem_append_left _ (List.mem_map_of_mem (List.mem_filter.2 ⟨ha, hhit⟩)))
  have hone := hdamageable.one_fault_iff hquiet ha hhit hperm
  have hreferences := hdamageable.references_iff hquiet ha hhit
  have hcount :
    p.artifacts.countP (fun b => fs.find ((Path.Location.mk .top place).append b.path) = .ok file) =
      p.artifacts.countP ((fs.damage place file bytes e).hits ·.path) :=
    List.countP_congr fun b _ => by rw [hits_damage, decide_eq_true_iff]
  refine ⟨report, hreport, hin, ?_, fun hnamed hback => read_by_one hp hroot
    hnamed hback ha hfile hsound⟩
  rw [hcount]
  exact hone.trans (and_congr_right hreferences)

end Written

/-! ## A package whose only script is named by the descriptor -/

def oneNode : Value := .object [("node-red", .object [("nodes", .object [("foo", .str "foo.js")])])]

theorem simple_oneNode : Json.Simple 3 oneNode :=
  .entry (by decide) (.entry (by decide) (.entry (by decide) (.str (by decide))))

def oneLabel : Value := .object [("label", .str "Foo")]

theorem simple_oneLabel : Json.Simple 1 oneLabel := .entry (by decide) (.str (by decide))

def stubSource : List Char := (stubParts "foo").flatMap Script.Part.source

theorem plain_foo : Text.PlainName "foo" := ⟨by decide, by decide⟩

def loneStub : Artifact := ⟨.hostStub, "foo.js", stubSource, .scanned (Script.views stubSource)⟩

def loneBundle : Artifact :=
  ⟨.localeBundle, "locales/en-US/foo.json", oneLabel.pretty.toList, .json oneLabel⟩

def loneDescriptor : Artifact := ⟨.descriptor, descriptorName, oneNode.pretty.toList, .json oneNode⟩

def loneUnit : NodeUnit := ⟨"", "foo", some loneStub, none, none, none, [loneBundle], ["foo"]⟩

def lonePackage : Package := ⟨"/", [loneStub, loneBundle, loneDescriptor], [loneUnit]⟩

def loneFiles : FileSystem where
  files :=
    [(["foo.js"], Text.encode stubSource), (["locales", "en-US", "foo.json"],
      Text.encode oneLabel.pretty.toList),
    (["package.json"], Text.encode oneNode.pretty.toList)]
  directories := []
  workingDirectory := []
  room := usualRoom

def lonePlaces : List Place := [["foo.js"], ["locales", "en-US", "foo.json"], ["package.json"]]

def lonePaths : List String := ["foo.js", "locales/en-US/foo.json", "package.json"]

theorem places_lone : loneFiles.files.map (·.1) = lonePlaces := rfl

theorem groupUnits_lone : groupUnits [loneStub, loneBundle, loneDescriptor] = [loneUnit] := by
  have hkeys : unitKeys [loneStub, loneBundle, loneDescriptor] = [("", "foo")] := by decide
  unfold groupUnits
  rw [hkeys, List.mergeSort_singleton, List.map_singleton]
  rfl

theorem checkRoot_lone : checkRoot loneFiles (Path.Location.ofString "/") = .ok [] := by rfl

theorem foundFiles_lone : foundFiles loneFiles ({} : Settings).exclude [] = lonePaths := by
  refine sortPaths_eq (List.Perm.of_eq ?_) (by decide)
  show (lonePlaces.filter (findsFile ({} : Settings).exclude)).map _ = _
  decide

theorem discover_lone : discover loneFiles (Path.Location.ofString "/") ({} : Settings).exclude
    ({} : Settings).maxWorkers = .ok lonePackage := by
  have hread : loneFiles.read ((Path.Location.mk .top []).append loneBundle.path) =
        .ok (Text.encode oneLabel.pretty.toList) ∧
      loneFiles.read ((Path.Location.mk .top []).append descriptorName) =
        .ok (Text.encode oneNode.pretty.toList) := by
    unfold loneFiles
    generalize Text.encode oneLabel.pretty.toList = label
    generalize Text.encode oneNode.pretty.toList = node
    exact ⟨by rfl, by rfl⟩
  have hbundle : loneBundle.Loaded usualRoom ∧ Text.Unix loneBundle.text :=
    TwinPackage.loaded_json rfl (by decide) simple_oneLabel (by decide)
  have hothers : ∀ a ∈ [loneStub, loneBundle], loadArtifact loneFiles [] a.kind a.path = .ok a := by
    simp only [List.forall_mem_cons]
    exact ⟨loadArtifact_written (by rfl) (stubParts_unix plain_foo) (by rfl),
      loadArtifact_written hbundle.1 hbundle.2 hread.1, List.forall_mem_nil _⟩
  have hworkers : (1 : Int) ≤ ({} : Settings).maxWorkers := by decide
  rw [discover_of_artifacts (some loneDescriptor) [loneStub, loneBundle]
    checkRoot_lone hworkers foundFiles_lone (loadDescriptor_written (by decide) simple_oneNode
      (by decide) hread.2) (by rfl) hothers (by decide)]
  show Except.ok (Package.mk "/" [loneStub, loneBundle, loneDescriptor]
    (groupUnits [loneStub, loneBundle, loneDescriptor])) = _
  rw [groupUnits_lone]
  rfl

def loneFacts : FactSet where
  identities := [⟨"foo.js", .registrationCall, "foo", "line 5"⟩,
    ⟨"package.json", .descriptorKey, "foo", registrationLocation "foo"⟩]
  facts :=
    [⟨"foo.js", .registrationCall, .form .literal, none⟩,
      ⟨"foo.js", .usesImportStatement, .flag false, none⟩,
    ⟨"foo.js", .referencesDeviceModule, .flag false, none⟩,
    ⟨"package.json", .descriptorNodeMapShape, .shape .object, some nodeMapLocation⟩]

theorem declarations_lone : lonePackage.declarations {} = loneFacts := by
  have hstub : loneStub.declarations {} = ⟨[⟨"foo.js", .registrationCall, "foo", "line 5"⟩],
      [⟨"foo.js", .registrationCall, .form .literal, none⟩,
        ⟨"foo.js", .usesImportStatement, .flag false, none⟩, ⟨"foo.js", .referencesDeviceModule,
          .flag false, none⟩]⟩ := stub_declarations plain_foo "foo.js"
  have hbundle : loneBundle.declarations {} = .empty := rfl
  have hdescriptor : loneDescriptor.declarations {} =
      ⟨[⟨"package.json", .descriptorKey, "foo", registrationLocation "foo"⟩],
        [⟨"package.json", .descriptorNodeMapShape, .shape .object, some nodeMapLocation⟩]⟩ := by rfl
  show [loneStub, loneBundle, loneDescriptor].foldl
    (fun known a => known ++ a.declarations {}) .empty = _
  simp only [List.foldl_cons, List.foldl_nil, hstub, hbundle, hdescriptor]
  rfl

theorem quiet_lone : Quiet (lonePackage.context {}) := by
  unfold Package.context
  rw [declarations_lone, quiet_iff]
  refine ⟨rfl, rfl, rfl, rfl, rfl, rfl, rfl, rfl, rfl, rfl, ?_, rfl⟩
  have hnames : (representatives ⟨lonePackage, loneFacts, {}⟩ loneUnit).map (·.value) =
      ["foo", "foo"] := by rfl
  have hagree : mismatch? ⟨lonePackage, loneFacts, {}⟩ loneUnit = none := by
    rw [mismatch?_eq_none_iff, hnames]
    exact ⟨"foo", by decide⟩
  have hunits : lonePackage.units = [loneUnit] := rfl
  unfold identityConsistency
  dsimp only
  rw [hunits, List.flatMap_singleton]
  unfold unitIdentity
  rw [hagree]
  rfl

theorem clean_lone : ∃ clean, validateRoot loneFiles {} "/" = .ok clean ∧
    clean.diagnostics = [] := by
  have hnone : contributions {} lonePackage (Rule.enabled []) = [] := by
    rw [Rule.enabled_nil, contributions, runRules_eq_nil_iff.2 quiet_lone, List.map_nil]
  have hcheck : checkPackage {} (Rule.enabled []) lonePackage =
      .ok ⟨"/", [], packageCounters lonePackage (lonePackage.declarations {}), none⟩ := by
    rw [checkPackage_eq, hnone, sortDiagnostics_nil]
    rfl
  refine ⟨⟨"/", [], packageCounters lonePackage (lonePackage.declarations {}), none⟩, ?_, rfl⟩
  unfold validateRoot
  rw [discover_lone]
  dsimp only
  rw [hcheck]

theorem named_lone : loneFiles.Named := by
  have hnames : ∀ place ∈ loneFiles.files.map (·.1), ∀ n ∈ place, n ≠ "" ∧ n ≠ "." ∧
      n ≠ ".." ∧ '/' ∉ n.toList := by
    rw [places_lone]
    decide
  intro file hfile n hn
  obtain ⟨hne, hdot, hdots, hslash⟩ := hnames file.1 (List.mem_map_of_mem hfile) n hn
  exact ⟨hne, hdot, hdots, hslash⟩

theorem sound_lone : loneFiles.Sound := by
  refine ⟨?_, fun file hfile n hn => (named_lone file hfile n hn).slashless⟩
  rw [places_lone]
  decide

theorem countable_of_unix {text : List Char} (hunix : Text.Unix text)
    (hlength : text.length + 1 < 10 ^ 4) :
    CountableBytes (Text.encode text) := by
  apply countableBytes_of_lt
  rwa [Text.length_encode hunix]

theorem sized_lone : loneFiles.Sized := by
  unfold loneFiles FileSystem.Sized
  simp only [List.forall_mem_cons]
  have hlength : stubSource.length = 162 := by rfl
  exact ⟨countable_of_unix (stubParts_unix plain_foo) (by rw [hlength]; decide),
    countable_of_unix (Json.unix_indented simple_oneLabel 0) (by decide),
    countable_of_unix (Json.unix_indented simple_oneNode 0) (by decide), List.forall_mem_nil _⟩

/-- What is wrong with a brace alone. -/
def braceError : Json.SyntaxError := Json.SyntaxError.locate ['{'] .noPropertyName []

theorem unix_brace : Text.Unix ['{'] := .cons (by decide) (List.forall_mem_nil _)

theorem read_brace {room : Nat} (hroom : 0 < room) :
    Json.read room (Text.readText (Text.encode ['{'])) = .error (.malformed braceError) := by
  have hvalue : Json.readValue room [] ['{'] = .error (.malformed .noPropertyName []) := by
    rw [Json.readValue, List.length_nil, if_neg (Nat.not_le.2 hroom)]
    rfl
  have hblanks : Json.skipBlanks ['{'] = ['{'] := rfl
  unfold Json.read
  rw [Text.readText_encode unix_brace, hblanks, hvalue]
  rfl

/-- The locale bundle is damaged, and that is what is reported. -/
theorem one_diagnostic_loneBundle :
    loneFiles.Sound ∧ loneFiles.Sized ∧ CountableBytes (Text.encode ['{']) ∧
    (∃ clean, validateRoot loneFiles {} "/" = .ok clean ∧ clean.diagnostics = []) ∧
    loneBundle ∈ lonePackage.artifacts ∧ JsonFile loneBundle.path ∧
    ∃ report, validateRoot (loneFiles.write ["locales", "en-US", "foo.json"] (Text.encode ['{'])) {}
      "/" = .ok report ∧
      report.diagnostics = [syntaxDiagnostic braceError loneBundle] := by
  obtain ⟨clean, hclean, hnone⟩ := clean_lone
  have hbundle : loneBundle ∈ lonePackage.artifacts := .tail _ (.head _)
  have hjson : JsonFile loneBundle.path := ⟨⟨.localeBundle, by decide, rfl⟩, by decide⟩
  have hfile : loneFiles.find ((Path.Location.mk .top []).append loneBundle.path) =
      .ok ["locales", "en-US", "foo.json"] := by rfl
  have hbytes : CountableBytes (Text.encode ['{']) := countable_of_unix unix_brace (by decide)
  have hback : ∀ names ∈ loneFiles.filesBelow [], ∀ n ∈ names, '\\' ∉ n.toList := by
    show ∀ names ∈ lonePlaces, _
    decide
  obtain ⟨report, hreport, _, hone, hcount⟩ :=
    one_diagnostic_iff sound_lone sized_lone hclean hnone discover_lone
    checkRoot_lone hbundle hjson hfile hbytes (read_brace (by decide))
  have hkind : loneBundle.kind ≠ .descriptor := by decide
  exact ⟨sound_lone, sized_lone, hbytes, ⟨clean, hclean, hnone⟩, hbundle, hjson, report, hreport,
    hone.2 ⟨hcount named_lone hback, fun hk => absurd hk hkind⟩⟩

def noScript : Diagnostic where
  severity := .error
  ruleId := "P1"
  kind := .missingArtifact
  message := "Package contains no host stub script"
  path := "."
  location := none
  hint := some "Add the missing file next to the node's other files."

/-- The descriptor with a fault, as it is read. -/
def brokenDescriptor : Artifact :=
  ⟨.descriptor, descriptorName, Text.readText (Text.encode ['{']), .malformed braceError⟩

theorem damaged_lone : lonePackage.damaged lonePaths
    (loneFiles.damage [] ["package.json"] (Text.encode ['{']) braceError) =
    ⟨"/", [loneBundle, brokenDescriptor], []⟩ := by
  have hhit : (loneFiles.damage [] ["package.json"] (Text.encode ['{']) braceError).hits
      descriptorName = true := by rfl
  have hmiss : (loneFiles.damage [] ["package.json"] (Text.encode ['{']) braceError).hits
      loneBundle.path = false := by rfl
  have hkept : lonePackage.artifacts.filter (Artifact.keptBy lonePaths []) =
      [loneBundle, loneDescriptor] := by rfl
  have hbroken : (loneFiles.damage [] ["package.json"] (Text.encode ['{']) braceError).on
    loneDescriptor =
      brokenDescriptor := by
    unfold Damage.on
    rw [show loneDescriptor.path = descriptorName from rfl, hhit]
    rfl
  have hunits : groupUnits [loneBundle, brokenDescriptor] = [] := by
    unfold groupUnits
    rw [show unitKeys [loneBundle, brokenDescriptor] = [] from rfl,
      List.mergeSort_nil, List.map_nil]
  unfold Package.damaged Damage.references
  dsimp only
  rw [hhit, if_pos rfl, hkept, List.map_cons, List.map_singleton,
    Damage.on_of_not_hit _ hmiss, hbroken, hunits]
  rfl

/-- The descriptor is damaged, and it is also reported that there is no script, though the script is
where it was. -/
theorem reported_twice_lone :
    (∃ clean, validateRoot loneFiles {} "/" = .ok clean ∧ clean.diagnostics = []) ∧
    loneDescriptor ∈ lonePackage.artifacts ∧ JsonFile loneDescriptor.path ∧
    ∃ report, validateRoot (loneFiles.write ["package.json"] (Text.encode ['{'])) {} "/" =
      .ok report ∧
      report.diagnostics.Perm [syntaxDiagnostic braceError loneDescriptor, noScript] := by
  obtain ⟨clean, hclean, hnone⟩ := clean_lone
  have hdescriptor : loneDescriptor ∈ lonePackage.artifacts := .tail _ (.tail _ (.head _))
  have hjson : JsonFile loneDescriptor.path := ⟨⟨.descriptor, by decide, rfl⟩, by decide⟩
  have hfile : loneFiles.find ((Path.Location.mk .top []).append loneDescriptor.path) =
      .ok ["package.json"] := by rfl
  have hbytes : CountableBytes (Text.encode ['{']) := countable_of_unix unix_brace (by decide)
  obtain ⟨report, hreport, hperm⟩ :=
    perm_damaged sound_lone sized_lone hclean hnone discover_lone checkRoot_lone
    hdescriptor hjson hfile hbytes (read_brace (by decide))
  have hfaults : lonePackage.artifacts.filter
      ((loneFiles.damage [] ["package.json"] (Text.encode ['{']) braceError).hits ·.path) =
        [loneDescriptor] := by rfl
  have hrest : runRules catalog.tail
      ((Package.mk "/" [loneBundle, brokenDescriptor] []).context {}) = [noScript] := by rfl
  rw [hfaults, foundFiles_lone, damaged_lone, hrest] at hperm
  exact ⟨⟨clean, hclean, hnone⟩, hdescriptor, hjson, report, hreport, hperm⟩

end TwinNode
