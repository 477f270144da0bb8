import TwinNode.Proofs.Declaration.Facts
import TwinNode.Proofs.Json.DistinctKeys
import TwinNode.Proofs.Package.Contents
import TwinNode.Proofs.Rule.Identity
import TwinNode.Proofs.Validation.Contribution
import TwinNode.Rule.Catalog

/-! Which files are host stubs depends on what the descriptor names, and the check of the
descriptor asks for host stubs. Taken together, an entry of the node map is right if and
only if it names a found file that is called like a host script, and a host stub is
registered if and only if some entry leads to its path. -/

namespace TwinNode

open TwinNode.Json (Value)
open TwinNode.Path (HostScript normalizeReference)

/-- The value of an entry names a found file that is called like a host script. -/
def NamesHostScript (files : List String) (value : Value) : Prop :=
  ∃ written, value = .str written ∧ normalizeReference written ∈ files ∧
    HostScript (Path.name (normalizeReference written))

/-- An entry of a node map leads to the stub with a path: it names the stub or the device script
next to it. -/
def LeadsTo (nodes : List (String × Value)) (path : String) : Prop :=
  ∃ entry ∈ nodes, ∃ written, entry.2 = .str written ∧
    Path.stubPath (normalizeReference written) = path

/-- The host stubs of a package are among the found files, and all that a node map names and that
can be host stubs are. -/
structure Package.Classified (p : Package) (files : List String) (nodes : List (String × Value)) :
    Prop where
  nodup : (p.artifacts.map (·.path)).Nodup
  found : ∀ a ∈ p.artifacts, a.kind = .hostStub → a.path ∈ files ∧ HostScript (Path.name a.path)
  named : ∀ entry ∈ nodes, ∀ written, entry.2 = .str written → normalizeReference written ∈ files →
    HostScript (Path.name (normalizeReference written)) →
      ∃ a ∈ p.artifacts, a.path = normalizeReference written ∧ a.kind = .hostStub

namespace Rule

theorem slash_not_mem_suffix : '/' ∉ Path.deviceScriptSuffix.toList := by decide

theorem not_device_of_hostScript {path : String} (h : HostScript (Path.name path)) :
    Path.hasSuffix Path.deviceScriptSuffix path = false := by
  rw [← Path.hasSuffix_name slash_not_mem_suffix]
  exact h.2

theorem fault_at {p : Package} {descriptor key : String} {value : Value} {f : Finding}
    (h : registrationFault? p descriptor key value = some f) :
    f.path = descriptor ∧ f.location = some (registrationLocation key) ∧ f.severity = none := by
  unfold registrationFault? at h
  dsimp only at h
  repeat' split at h
  all_goals cases h <;> exact ⟨rfl, rfl, rfl⟩

theorem registrationFault?_str {p : Package} {descriptor key written : String} :
    registrationFault? p descriptor key (.str written) = none ↔
      Path.hasSuffix Path.deviceScriptSuffix (normalizeReference written) = false ∧
        (p.get? (normalizeReference written)).any (·.kind = .hostStub) = true := by
  unfold registrationFault?
  dsimp only [Value.str?]
  cases Path.hasSuffix Path.deviceScriptSuffix (normalizeReference written) with
  | true => simp
  | false =>
    cases p.get? (normalizeReference written) with
    | none => simp
    | some target => by_cases hstub : target.kind = .hostStub <;> simp [hstub]

theorem registeredStub?_str {p : Package} {written path : String} :
    registeredStub? p (.str written) = some path ↔
      Path.stubPath (normalizeReference written) = path ∧
      (Path.hasSuffix Path.deviceScriptSuffix (normalizeReference written) = true ∨
        (p.get? (normalizeReference written)).any (·.kind = .hostStub) = true) := by
  unfold registeredStub? Path.stubPath
  dsimp only [Value.str?, Option.bind_some]
  cases Path.hasSuffix Path.deviceScriptSuffix (normalizeReference written) with
  | true => simp
  | false => cases (p.get? (normalizeReference written)).any (·.kind = .hostStub) <;> simp

section Paths

variable {p : Package} (hpaths : ∀ b ∈ p.artifacts, ∀ c ∈ p.artifacts, b.path = c.path → b = c)
include hpaths

theorem any_get?_iff {path : String} : (p.get? path).any (·.kind = .hostStub) = true ↔
    ∃ a ∈ p.artifacts, a.path = path ∧ a.kind = .hostStub := by
  rw [Option.any_eq_true]
  constructor
  · rintro ⟨a, ha, hstub⟩
    exact ⟨a, List.mem_of_find?_eq_some ha, by simpa using List.find?_some ha, by simpa using hstub⟩
  · rintro ⟨a, ha, rfl, hstub⟩
    exact ⟨a, Package.get?_path hpaths ha, by simpa using hstub⟩

theorem registered_iff {stub : Artifact} (hs : stub ∈ p.ofKind .hostStub)
    {nodes : List (String × Value)} :
    (nodes.filterMap fun entry => registeredStub? p entry.2).contains stub.path = true ↔
      LeadsTo nodes stub.path := by
  obtain ⟨hin, hstub⟩ := List.mem_filter.1 hs
  rw [List.contains_iff_mem, List.mem_filterMap]
  refine exists_congr fun entry => and_congr_right fun _ => ?_
  cases hvalue : entry.2 with
  | str written =>
    rw [registeredStub?_str]
    constructor
    · rintro ⟨hpath, _⟩
      exact ⟨written, rfl, hpath⟩
    · rintro ⟨written, heq, hpath⟩
      obtain rfl := Value.str.inj heq
      refine ⟨hpath, ?_⟩
      cases hdevice : Path.hasSuffix Path.deviceScriptSuffix (normalizeReference _) with
      | true => exact .inl rfl
      | false =>
        -- The reference is the path of the stub itself, which is there.
        rw [Path.stubPath, hdevice, if_neg Bool.false_ne_true] at hpath
        exact .inr ((any_get?_iff hpaths).2 ⟨stub, hin, hpath.symm, by simpa using hstub⟩)
  | null | bool | int | real | list | object => simp [registeredStub?, Value.str?]

end Paths

theorem registrationFault?_eq_none_iff {p : Package} {files : List String}
    {nodes : List (String × Value)} (hp : p.Classified files nodes) {entry : String × Value}
    (he : entry ∈ nodes) (descriptor : String) :
    registrationFault? p descriptor entry.1 entry.2 = none ↔ NamesHostScript files entry.2 := by
  unfold NamesHostScript
  cases hvalue : entry.2 with
  | str written =>
    rw [registrationFault?_str, any_get?_iff (path_injOn hp.nodup)]
    constructor
    · rintro ⟨_, a, ha, hpath, hstub⟩
      exact ⟨written, rfl, hpath ▸ hp.found a ha hstub⟩
    · rintro ⟨written, heq, hfound, hscript⟩
      obtain rfl := Value.str.inj heq
      exact ⟨not_device_of_hostScript hscript, hp.named entry he _ hvalue hfound hscript⟩
  | null | bool | int | real | list | object => simp [registrationFault?, Value.str?]

section Findings

variable {p : Package} {d : Artifact} {v : Value} {nodes : List (String × Value)}
  {settings : RuleSettings} (hd : p.descriptor? = some d) (hv : d.content = .json v)
  (hnodes : registrations? v = some nodes)
include hv hnodes

theorem registrations_of_json : d.registrations = nodes := by
  unfold Artifact.registrations Artifact.json?
  rw [hv]
  dsimp only
  rw [Option.bind_some, hnodes, Option.getD_some]

include hd

theorem shape_nodeMap (hnodup : (p.artifacts.map (·.path)).Nodup) :
    (p.declarations settings).shape d.path .descriptorNodeMapShape = .object := by
  have hkind : d.kind = .descriptor := by simpa using List.find?_some hd
  have hfacts : (d.declarations settings).facts =
      [⟨d.path, .descriptorNodeMapShape, .shape (nodeMapShape v), some nodeMapLocation⟩] := by
    unfold Artifact.declarations
    rw [hkind, hv]
    rfl
  unfold FactSet.shape FactSet.fact?
  rw [factsFor_declarations hnodup (List.mem_of_find?_eq_some hd), hfacts]
  simp [nodeMapShape, hnodes]

theorem descriptorPointsToStub_eq (hnodup : (p.artifacts.map (·.path)).Nodup) :
    descriptorPointsToStub (p.context settings) = registrationFaults p d.path nodes := by
  have hparsed : d.isParsed = true := by
    unfold Artifact.isParsed Artifact.syntaxError?
    rw [hv]
    rfl
  unfold descriptorPointsToStub Package.context
  dsimp only
  rw [hd]
  dsimp only
  rw [hparsed, shape_nodeMap hd hv hnodes hnodup, registrations_of_json hv hnodes]
  rfl

end Findings

end Rule

def Diagnostic.isErrorAt (location : String) (g : Diagnostic) : Bool :=
  g.severity = .error && g.location = some location

def Diagnostic.isWarningOf (path : String) (g : Diagnostic) : Bool :=
  g.severity = .warning && g.path = path

/-- Where keys are different, what has the key of a thing is that thing. -/
theorem countP_of_nodup [DecidableEq κ] {key : α → κ} {things : List α}
    (h : (things.map key).Nodup) {a : α} (ha : a ∈ things) (q : α → Bool) :
    things.countP (fun b => key b = key a && q b) = (q a).toNat := by
  induction things with
  | nil => cases ha
  | cons b things ih =>
    rw [List.map_cons, List.nodup_cons] at h
    rw [List.countP_cons]
    rcases List.mem_cons.1 ha with rfl | ha
    · have hrest : things.countP (fun b => key b = key a && q b) = 0 := by
        rw [List.countP_eq_zero]
        intro b hb hkey
        simp only [Bool.and_eq_true, decide_eq_true_eq] at hkey
        exact h.1 (hkey.1 ▸ List.mem_map_of_mem hb)
      rw [hrest, decide_eq_true rfl, Bool.true_and]
      cases q a <;> rfl
    · have hne : key b ≠ key a := fun hkey => h.1 (hkey ▸ List.mem_map_of_mem ha)
      rw [ih h.2 ha, decide_eq_false hne, Bool.false_and]
      rfl

/-- The report on a node map: one error at each entry that names no host script, one warning about
each host stub that no entry leads to, and nothing else. -/
structure ReportsNodeMap (p : Package) (descriptor : String) (files : List String)
    (nodes : List (String × Value)) (report : List Diagnostic) : Prop where
  right : ∀ entry ∈ nodes, NamesHostScript files entry.2 →
    report.countP (Diagnostic.isErrorAt (registrationLocation entry.1)) = 0
  wrong : ∀ entry ∈ nodes, ¬NamesHostScript files entry.2 →
    report.countP (Diagnostic.isErrorAt (registrationLocation entry.1)) = 1
  errors : ∀ g ∈ report, g.severity = .error → g.path = descriptor ∧
    ∃ entry ∈ nodes, ¬NamesHostScript files entry.2 ∧ g.location =
      some (registrationLocation entry.1)
  registered : ∀ stub ∈ p.ofKind .hostStub, LeadsTo nodes stub.path →
    report.countP (Diagnostic.isWarningOf stub.path) = 0
  unregistered : ∀ stub ∈ p.ofKind .hostStub, ¬LeadsTo nodes stub.path →
    report.countP (Diagnostic.isWarningOf stub.path) = 1
  warnings : ∀ g ∈ report, g.severity = .warning → g.location = none ∧
    g.message = "Host stub is not registered in package.json node-red.nodes" ∧
    ∃ stub ∈ p.ofKind .hostStub, ¬LeadsTo nodes stub.path ∧ g.path = stub.path

section Reported

variable {r : Rule} (hr : r.severity = .error) {p : Package} {nodes : List (String × Value)}
  {descriptor : String}
include hr

theorem countP_faults (hkeys : (nodes.map (·.1)).Nodup) {entry : String × Value}
    (he : entry ∈ nodes) :
    ((nodes.filterMap fun e =>
        Rule.registrationFault? p descriptor e.1 e.2).map r.diagnostic).countP
        (Diagnostic.isErrorAt (registrationLocation entry.1)) =
      (Rule.registrationFault? p descriptor entry.1 entry.2).isSome.toNat := by
  rw [← countP_of_nodup hkeys he fun e => (Rule.registrationFault? p descriptor e.1 e.2).isSome,
    List.countP_map, List.countP_filterMap]
  refine List.countP_congr fun e _ => ?_
  cases hf : Rule.registrationFault? p descriptor e.1 e.2 with
  | none => simp
  | some f =>
    obtain ⟨_, hlocation, hseverity⟩ := Rule.fault_at hf
    simp [Diagnostic.isErrorAt, Rule.diagnostic, hlocation, hseverity, hr, registrationLocation_inj]

theorem error_of_mem_faults {g : Diagnostic}
    (h : g ∈ (nodes.filterMap fun e =>
      Rule.registrationFault? p descriptor e.1 e.2).map r.diagnostic) :
    g.severity = .error ∧ g.path = descriptor ∧ ∃ entry ∈ nodes,
      Rule.registrationFault? p descriptor entry.1 entry.2 ≠ none ∧
        g.location = some (registrationLocation entry.1) := by
  obtain ⟨f, hf, rfl⟩ := List.mem_map.1 h
  obtain ⟨entry, he, hfault⟩ := List.mem_filterMap.1 hf
  obtain ⟨hpath, hlocation, hseverity⟩ := Rule.fault_at hfault
  refine ⟨?_, hpath, entry, he, by simp [hfault], hlocation⟩
  show f.severity.getD r.severity = .error
  rw [hseverity, hr]
  rfl

omit hr

variable (r) in
def unregisteredWarning (stub : Artifact) : Diagnostic :=
  r.diagnostic
    { path := stub.path
      message := "Host stub is not registered in package.json node-red.nodes"
      severity := some .warning }

theorem countP_unregistered {stubs : List Artifact} (hpaths : (stubs.map (·.path)).Nodup)
    {stub : Artifact} (hs : stub ∈ stubs) (q : Artifact → Bool) :
    ((stubs.filter q).map (unregisteredWarning r)).countP (Diagnostic.isWarningOf stub.path) =
      (q stub).toNat := by
  rw [← countP_of_nodup hpaths hs q, List.countP_map, List.countP_filter]
  refine List.countP_congr fun s _ => ?_
  have hwarning : Diagnostic.isWarningOf stub.path (unregisteredWarning r s) =
      decide (s.path = stub.path) :=
    Bool.true_and _
  rw [Function.comp_apply, hwarning]

variable (r p nodes) in
/-- The warnings about the host stubs that no entry leads to. -/
def unregisteredWarnings : List Diagnostic :=
  ((p.ofKind .hostStub).filter fun stub =>
    !(nodes.filterMap fun e => Rule.registeredStub? p e.2).contains stub.path).map
    (unregisteredWarning r)

theorem registrationFaults_eq : (Rule.registrationFaults p descriptor nodes).map r.diagnostic =
    (nodes.filterMap fun e => Rule.registrationFault? p descriptor e.1 e.2).map r.diagnostic ++
      unregisteredWarnings r p nodes := by
  unfold Rule.registrationFaults unregisteredWarnings
  dsimp only
  rw [List.map_append, List.map_map]
  rfl

theorem countP_errors (hr : r.severity = .error) (hkeys : (nodes.map (·.1)).Nodup)
    {entry : String × Value} (he : entry ∈ nodes) :
    ((Rule.registrationFaults p descriptor nodes).map r.diagnostic).countP
        (Diagnostic.isErrorAt (registrationLocation entry.1)) =
      (Rule.registrationFault? p descriptor entry.1 entry.2).isSome.toNat := by
  have hwarnings : (unregisteredWarnings r p nodes).countP
      (Diagnostic.isErrorAt (registrationLocation entry.1)) = 0 := by
    rw [List.countP_eq_zero]
    intro g hg
    obtain ⟨stub, _, rfl⟩ := List.mem_map.1 hg
    exact Bool.false_ne_true
  rw [registrationFaults_eq, List.countP_append, countP_faults hr hkeys he, hwarnings, Nat.add_zero]

theorem countP_warnings (hr : r.severity = .error)
    (hpaths : ((p.ofKind .hostStub).map (·.path)).Nodup) {stub : Artifact}
    (hs : stub ∈ p.ofKind .hostStub) :
    ((Rule.registrationFaults p descriptor nodes).map r.diagnostic).countP
        (Diagnostic.isWarningOf stub.path) =
      (!(nodes.filterMap fun e => Rule.registeredStub? p e.2).contains stub.path).toNat := by
  have hfaults :
      ((nodes.filterMap fun e =>
        Rule.registrationFault? p descriptor e.1 e.2).map r.diagnostic).countP
        (Diagnostic.isWarningOf stub.path) = 0 := by
    rw [List.countP_eq_zero]
    intro g hg
    simp [Diagnostic.isWarningOf, (error_of_mem_faults hr hg).1]
  rw [registrationFaults_eq, List.countP_append, hfaults, Nat.zero_add, unregisteredWarnings,
    countP_unregistered hpaths hs]

/-- The errors and warnings about a node map of distinct keys, if the host stubs are what they
should be. -/
theorem reportsNodeMap_faults (hr : r.severity = .error) {files : List String}
    (hp : p.Classified files nodes) (hkeys : (nodes.map (·.1)).Nodup) :
    ReportsNodeMap p descriptor files nodes
      ((Rule.registrationFaults p descriptor nodes).map r.diagnostic) := by
  have hpaths : ((p.ofKind .hostStub).map (·.path)).Nodup :=
    hp.nodup.sublist (List.filter_sublist.map _)
  have hfault : ∀ entry ∈ nodes, Rule.registrationFault? p descriptor entry.1 entry.2 = none ↔
      NamesHostScript files entry.2 :=
        fun entry he => Rule.registrationFault?_eq_none_iff hp he descriptor
  have hlead : ∀ stub ∈ p.ofKind .hostStub,
      ((nodes.filterMap fun entry => Rule.registeredStub? p entry.2).contains stub.path = true) ↔
        LeadsTo nodes stub.path := fun stub hs => Rule.registered_iff (path_injOn hp.nodup) hs
  constructor
  case right =>
    intro entry he hnames
    rw [countP_errors hr hkeys he, (hfault entry he).2 hnames]
    rfl
  case wrong =>
    intro entry he hnames
    obtain ⟨f, hf⟩ := Option.ne_none_iff_exists'.1 (mt (hfault entry he).1 hnames)
    rw [countP_errors hr hkeys he, hf]
    rfl
  case errors =>
    intro g hg hseverity
    rw [registrationFaults_eq] at hg
    rcases List.mem_append.1 hg with hg | hg
    · obtain ⟨_, hpath, entry, he, hne, hlocation⟩ := error_of_mem_faults hr hg
      exact ⟨hpath, entry, he, fun hnames => hne ((hfault entry he).2 hnames), hlocation⟩
    · obtain ⟨stub, _, rfl⟩ := List.mem_map.1 hg
      cases hseverity
  case registered =>
    intro stub hs hleads
    rw [countP_warnings hr hpaths hs, (hlead stub hs).2 hleads]
    rfl
  case unregistered =>
    intro stub hs hleads
    rw [countP_warnings hr hpaths hs, Bool.eq_false_iff.2 (mt (hlead stub hs).1 hleads)]
    rfl
  case warnings =>
    intro g hg hseverity
    rw [registrationFaults_eq] at hg
    rcases List.mem_append.1 hg with hg | hg
    · rw [(error_of_mem_faults hr hg).1] at hseverity
      cases hseverity
    · obtain ⟨stub, hs, rfl⟩ := List.mem_map.1 hg
      obtain ⟨hs, hregistered⟩ := List.mem_filter.1 hs
      refine ⟨rfl, rfl, stub, hs, fun hleads => ?_, rfl⟩
      rw [(hlead stub hs).2 hleads] at hregistered
      cases hregistered

end Reported

theorem nodup_registrations {v : Value} (h : v.KeysDistinct) {nodes : List (String × Value)}
    (hnodes : registrations? v = some nodes) : (nodes.map (·.1)).Nodup := by
  obtain ⟨nodeRed, hnodeRed, hrest⟩ := Option.bind_eq_some_iff.1 hnodes
  obtain ⟨map, hmap, hmembers⟩ := Option.bind_eq_some_iff.1 hrest
  exact ((h.member? hnodeRed).member? hmap).members? hmembers

section Discovered

variable {fs : FileSystem} {root : Path.Location} {exclude : List String} {workers : Int}
  {p : Package} {place : Place} {d : Artifact} (hsound : fs.Sound)
  (hroot : checkRoot fs root = .ok place)
  (hback : ∀ names ∈ fs.filesBelow place, ∀ n ∈ names, '\\' ∉ n.toList)
  (h : discover fs root exclude workers = .ok p) (hd : p.descriptor? = some d)
include hsound hroot hback h hd

theorem classified_of_discover : p.Classified (foundFiles fs exclude place) d.registrations where
  nodup := paths_nodup_of_discover h hroot hsound hback
  found a ha hstub := by
    obtain ⟨hfound, hclass, _⟩ := found_of_mem_artifacts h hroot ha
    rw [hstub] at hclass
    exact ⟨hfound, kindOfPath?_hostStub.1 (classify_eq_some_iff.1 hclass).1⟩
  named entry he written hvalue hfound hscript := by
    have hreferenced : normalizeReference written ∈ p.referenced := by
      rw [Package.referenced_eq hd]
      exact List.mem_filterMap.2 ⟨entry, he, by rw [hvalue]; rfl⟩
    -- A script that the descriptor names is a host stub, wherever it stands.
    exact exists_artifact h hroot hfound
      (classify_eq_some_iff.2 ⟨kindOfPath?_hostStub.2 hscript, fun _ => .inr hreferenced⟩)

/-- The rule about the descriptor reports exactly what is wrong with the node map of a discovered
package, whatever is excluded. -/
theorem nodeMap_reported {v : Value} (hv : d.content = .json v) {nodes : List (String × Value)}
    (hnodes : registrations? v = some nodes) {r : Rule} (hr : Rule.find? "R4" = some r)
    (settings : RuleSettings) :
    ReportsNodeMap p d.path (foundFiles fs exclude place) nodes (r.run (p.context settings)) := by
  have hrule : r.check = Rule.total Rule.descriptorPointsToStub ∧ r.severity = .error := by
    obtain rfl := Option.some.inj hr
    exact ⟨rfl, rfl⟩
  have hclassified := classified_of_discover hsound hroot hback h hd
  rw [Rule.registrations_of_json hv hnodes] at hclassified
  have hread := (loaded_of_discover h (List.mem_of_find?_eq_some hd)).1.json hv
  have hkeys : (nodes.map (·.1)).Nodup := nodup_registrations (Json.keysDistinct_read hread) hnodes
  have hrun : r.run (p.context settings) = (Rule.registrationFaults p d.path nodes).map
      r.diagnostic := by
    unfold Rule.run
    rw [hrule.1, Rule.total, Rule.descriptorPointsToStub_eq hd hv hnodes hclassified.nodup]
  rw [hrun]
  exact reportsNodeMap_faults hrule.2 hclassified hkeys

end Discovered

/-- A descriptor that registers the host script `bar.js` and a script that is not there. -/
def halfRegistered : Value :=
  .object
    [("node-red", .object [("nodes", .object [("bar", .str "bar.js"), ("foo", .str "foo.js")])])]

theorem simple_halfRegistered : Json.Simple 3 halfRegistered := by
  have hnodes : Json.Simple 1 (.object [("bar", .str "bar.js"), ("foo", .str "foo.js")]) := by
    refine .object (List.cons_ne_nil _ _) (by decide) (by decide) ?_
    simp only [List.forall_mem_cons]
    exact ⟨.str (by decide), .str (by decide), List.forall_mem_nil _⟩
  exact .entry (by decide) (.entry (by decide) hnodes)

def halfRegisteredFiles : FileSystem where
  files := [(["bar.js"], []), (["package.json"], Text.encode halfRegistered.pretty.toList)]
  directories := []
  workingDirectory := []
  room := usualRoom

def barScript : Artifact := ⟨.hostStub, "bar.js", [], .scanned (Script.views [])⟩

def halfRegisteredDescriptor : Artifact :=
  ⟨.descriptor, descriptorName, halfRegistered.pretty.toList, .json halfRegistered⟩

theorem foundFiles_halfRegistered :
    foundFiles halfRegisteredFiles [] [] = ["bar.js", "package.json"] := by
  have hbelow : ((halfRegisteredFiles.filesBelow []).filter (findsFile [])).map (fun names =>
      Path.normalize (Path.join names)) = ["bar.js", "package.json"] := by rfl
  unfold foundFiles sortPaths
  rw [hbelow]
  exact List.mergeSort_of_pairwise (by decide)

theorem discover_halfRegistered : ∃ p, discover halfRegisteredFiles
    (Path.Location.ofString "/") [] 1 = .ok p ∧
    p.artifacts = [barScript, halfRegisteredDescriptor] := by
  have hroot : checkRoot halfRegisteredFiles (Path.Location.ofString "/") = .ok [] := by rfl
  have hread : halfRegisteredFiles.read ((Path.Location.mk .top []).append descriptorName) =
      .ok (Text.encode halfRegistered.pretty.toList) := by
    unfold halfRegisteredFiles
    -- The bytes of the descriptor are not looked at, only found.
    generalize Text.encode halfRegistered.pretty.toList = bytes
    rfl
  refine ⟨_, discover_of_artifacts (some halfRegisteredDescriptor) [barScript] hroot (by decide)
    foundFiles_halfRegistered
    (loadDescriptor_written (by decide) simple_halfRegistered (by decide) hread)
    (by rfl) ?_ ?_, rfl⟩
  · exact List.forall_mem_singleton.2 (by rfl)
  · exact List.pairwise_pair.2 (by decide)

theorem sound_halfRegisteredFiles : halfRegisteredFiles.Sound where
  distinct := by
    show [["bar.js"], ["package.json"]].Nodup
    decide
  slashless := by
    simp only [halfRegisteredFiles, List.forall_mem_cons]
    exact ⟨by decide, by decide, List.forall_mem_nil _⟩

theorem nodeMap_reported_halfRegistered : ∃ (p : Package) (r : Rule),
    discover halfRegisteredFiles (Path.Location.ofString "/") [] 1 = .ok p ∧
      Rule.find? "R4" = some r ∧
      (r.run (p.context {})).countP (Diagnostic.isErrorAt "node-red.nodes.foo") = 1 ∧
      (r.run (p.context {})).countP (Diagnostic.isErrorAt "node-red.nodes.bar") = 0 ∧
      (r.run (p.context {})).countP (Diagnostic.isWarningOf "bar.js") = 0 := by
  obtain ⟨p, hdiscover, hartifacts⟩ := discover_halfRegistered
  have hroot : checkRoot halfRegisteredFiles (Path.Location.ofString "/") = .ok [] := by rfl
  have hback : ∀ names ∈ halfRegisteredFiles.filesBelow [], ∀ n ∈ names, '\\' ∉ n.toList := by
    have hbelow : halfRegisteredFiles.filesBelow [] = [["bar.js"], ["package.json"]] := by rfl
    rw [hbelow]
    decide
  have hdescriptor : p.descriptor? = some halfRegisteredDescriptor := by
    unfold Package.descriptor?
    rw [hartifacts]
    rfl
  obtain ⟨r, hr⟩ : ∃ r, Rule.find? "R4" = some r := ⟨_, rfl⟩
  have hreported :=
    nodeMap_reported sound_halfRegisteredFiles hroot hback hdiscover hdescriptor rfl rfl hr {}
  rw [foundFiles_halfRegistered] at hreported
  have hnames : NamesHostScript ["bar.js", "package.json"] (.str "bar.js") :=
    ⟨"bar.js", rfl, by decide, by decide, by decide⟩
  have hmissing : ¬NamesHostScript ["bar.js", "package.json"] (.str "foo.js") := by
    rintro ⟨written, heq, hfound, _⟩
    obtain rfl := Value.str.inj heq
    exact absurd hfound (by decide)
  have hstub : barScript ∈ p.ofKind .hostStub := by
    unfold Package.ofKind
    rw [hartifacts]
    exact List.mem_cons_self
  have hleads : LeadsTo [("bar", .str "bar.js"), ("foo", .str "foo.js")] "bar.js" :=
    ⟨("bar", .str "bar.js"), List.mem_cons_self, "bar.js", rfl, by decide⟩
  exact ⟨p, r, hdiscover, hr, hreported.wrong ("foo", .str "foo.js") (by simp) hmissing,
    hreported.right ("bar", .str "bar.js") (by simp) hnames,
      hreported.registered barScript hstub hleads⟩

end TwinNode
