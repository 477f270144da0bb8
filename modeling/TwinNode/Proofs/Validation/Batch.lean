import TwinNode.Proofs.Json.Excess
import TwinNode.Proofs.Package.Contents
import TwinNode.Proofs.Package.Sized
import TwinNode.Proofs.Settings.Accepted
import TwinNode.Proofs.Validation.Strict

/-! Every root of a batch gets its report, in the order of the roots, whatever its files
hold: a JSON file is read or its fault is kept with the artifact, and all that the rules
report can be put in order. There are two exceptions, a root with a name that is too long
and a JSON file that is too much to be read; then there is no report on any root. -/

namespace TwinNode

open TwinNode.Text (maxDigits)

/-- A JSON file below a directory is too much to be read. -/
def FileSystem.HoldsExcess (fs : FileSystem) (place : Place) (path : String) : Prop :=
  JsonFile path ∧ ∃ bytes, fs.read ((Path.Location.mk .top place).append path) = .ok bytes ∧
    ∃ e, Json.read fs.room (Text.readText bytes) = .error (.excess e)

/-- A root that cannot be looked up, or below which a JSON file is too much to be read. -/
def FileSystem.Unanswerable (fs : FileSystem) (exclude : List String) (root : String) : Prop :=
  fs.find? (Path.Location.ofString root) = .error .nameTooLong ∨
    ∃ place, checkRoot fs (Path.Location.ofString root) = .ok place ∧
      ∃ path ∈ foundFiles fs exclude place, fs.HoldsExcess place path

/-- All files that discovery finds below a root can be read. -/
def FileSystem.Readable (fs : FileSystem) (exclude : List String) (root : String) : Prop :=
  ∀ place, checkRoot fs (Path.Location.ofString root) = .ok place →
    ∀ path ∈ foundFiles fs exclude place, ∃ bytes,
      fs.read ((Path.Location.mk .top place).append path) = .ok bytes

/-! ## Artifacts -/

theorem ofText_eq_error_iff {room : Nat} {kind : ArtifactKind} {path : String}
    {text : List Char} {e : Json.Excess} :
    Content.ofText room kind path text = .error e ↔ kind.isJson = true ∧
      Path.hasSuffix Path.jsonSuffix path = true ∧ Json.read room text = .error (.excess e) := by
  by_cases hk : kind.isJson = true
  · rw [ofText_of_isJson hk]
    by_cases hsuffix : Path.hasSuffix Path.jsonSuffix path = true
    · rw [if_pos hsuffix]
      constructor
      · intro h
        split at h
        · cases h
        · cases h
        · next hexcess =>
          cases h
          exact ⟨hk, hsuffix, hexcess⟩
      · rintro ⟨_, _, hexcess⟩
        rw [hexcess]
    · rw [if_neg hsuffix]
      exact ⟨nofun, fun h => absurd h.2.1 hsuffix⟩
  · have hok : ∃ content, Content.ofText room kind path text = .ok content := by
      cases kind with
      | hostStub | deviceScript | editorMarkup => exact ⟨_, rfl⟩
      | descriptor | manifest | localeBundle => exact absurd rfl hk
    obtain ⟨content, hcontent⟩ := hok
    rw [hcontent]
    exact ⟨nofun, fun h => absurd h.1 hk⟩

theorem loadArtifact_eq_fault_iff {fs : FileSystem} {root : Place} {kind : ArtifactKind}
    {path : String} {f : ScanFault} :
    loadArtifact fs root kind path = .error (.fault f) ↔ kind.isJson = true ∧
      Path.hasSuffix Path.jsonSuffix path = true ∧
        ∃ bytes, fs.read ((Path.Location.mk .top root).append path) = .ok bytes ∧
          ∃ e, f = .excess e ∧ Json.read fs.room (Text.readText bytes) = .error (.excess e) := by
  unfold loadArtifact
  dsimp only
  cases fs.read ((Path.Location.mk .top root).append path) with
  | error e => exact ⟨nofun, fun ⟨_, _, _, hread, _⟩ => nomatch hread⟩
  | ok bytes =>
    dsimp only
    cases hcontent : Content.ofText fs.room kind path (Text.readText bytes) with
    | ok content =>
      refine ⟨nofun, fun ⟨hkind, hsuffix, _, hread, e, _, hexcess⟩ => ?_⟩
      obtain rfl := Except.ok.inj hread
      cases hcontent.symm.trans (ofText_eq_error_iff.2 ⟨hkind, hsuffix, hexcess⟩)
    | error e =>
      obtain ⟨hkind, hsuffix, hexcess⟩ := ofText_eq_error_iff.1 hcontent
      constructor
      · intro h
        obtain rfl := DiscoveryError.fault.inj (Except.error.inj h)
        exact ⟨hkind, hsuffix, bytes, rfl, e, rfl, hexcess⟩
      · rintro ⟨_, _, _, hread, e', rfl, hexcess'⟩
        obtain rfl := Except.ok.inj hread
        rw [hexcess] at hexcess'
        cases hexcess'
        rfl

/-- A file that can be read is an artifact, or it is too much to be read. -/
theorem loadArtifact_of_read {fs : FileSystem} {root : Place} {kind : ArtifactKind}
    {path : String} {bytes : Bytes}
    (h : fs.read ((Path.Location.mk .top root).append path) = .ok bytes) :
    (∃ a, loadArtifact fs root kind path = .ok a) ∨
      ∃ e, loadArtifact fs root kind path = .error (.fault (.excess e)) := by
  unfold loadArtifact
  dsimp only
  rw [h]
  dsimp only
  split
  · exact .inr ⟨_, rfl⟩
  · exact .inl ⟨_, rfl⟩

/-! ## Discovery -/

section Discovery

variable {fs : FileSystem} {root : Path.Location} {exclude : List String} {workers : Int}
  {place : Place} {f : ScanFault}

theorem loadDescriptor_eq_error {files : List String} {e : DiscoveryError}
    (h : loadDescriptor fs place files = .error e) :
    descriptorName ∈ files ∧ loadArtifact fs place .descriptor descriptorName = .error e := by
  unfold loadDescriptor at h
  split at h
  · next hin =>
    cases hload : loadArtifact fs place .descriptor descriptorName with
    | error e' =>
      rw [hload] at h
      exact ⟨List.contains_iff_mem.1 hin, congrArg Except.error (Except.error.inj h)⟩
    | ok d =>
      rw [hload] at h
      cases h
  · cases h

/-- Artifacts fail to be read because there is no worker, or because one found file fails. -/
theorem loadArtifacts_eq_error {files : List String} {e : DiscoveryError}
    (h : loadArtifacts fs place workers files = .error e) : (workers < 1 ∧ e = .fault .noWorker) ∨
      ∃ path ∈ files, ∃ kind, kindOfPath? path = some kind ∧
        loadArtifact fs place kind path = .error e := by
  rw [loadArtifacts_bind] at h
  cases hdescriptor : loadDescriptor fs place files with
  | error e' =>
    rw [hdescriptor] at h
    obtain rfl : e' = e := Except.error.inj h
    obtain ⟨hin, hload⟩ := loadDescriptor_eq_error hdescriptor
    exact .inr ⟨descriptorName, hin, .descriptor, kindOfPath?_descriptor.2 rfl, hload⟩
  | ok descriptor =>
    rw [hdescriptor] at h
    dsimp only [Except.bind] at h
    split at h
    · next hworkers => exact .inl ⟨hworkers, (Except.error.inj h).symm⟩
    · unfold loadBeside at h
      cases hothers : (classifyFiles files
        (referencedPaths ((descriptor.map Artifact.registrations).getD []))).mapM
          fun entry => loadArtifact fs place entry.2 entry.1 with
      | ok others =>
        rw [hothers] at h
        cases h
      | error e' =>
        rw [hothers] at h
        obtain rfl : e' = e := Except.error.inj h
        obtain ⟨entry, hentry, hload⟩ := mapM_eq_error hothers
        obtain ⟨hfound, _, hclass⟩ := mem_classifyFiles.1 hentry
        exact .inr ⟨entry.1, hfound, entry.2, (classify_eq_some_iff.1 hclass).1, hload⟩

/-- Discovery breaks off only at a root that cannot be looked up, or at a JSON file that is too much
to be read. -/
theorem discover_eq_fault (hworkers : 1 ≤ workers)
    (h : discover fs root exclude workers = .error (.fault f)) :
    fs.find? root = .error .nameTooLong ∨ ∃ place, checkRoot fs root = .ok place ∧
      ∃ path ∈ foundFiles fs exclude place, fs.HoldsExcess place path := by
  unfold discover at h
  cases hroot : checkRoot fs root with
  | error e =>
    simp only [hroot, bind, Except.bind] at h
    obtain rfl := Except.error.inj h
    unfold checkRoot at hroot
    split at hroot
    · next hname => exact .inl hname
    · cases hroot
    · split at hroot <;> cases hroot
  | ok place =>
    simp only [hroot, bind, Except.bind] at h
    cases hload : loadArtifacts fs place workers (foundFiles fs exclude place) with
    | ok artifacts =>
      rw [hload] at h
      cases h
    | error e =>
      rw [hload] at h
      obtain rfl := Except.error.inj h
      rcases loadArtifacts_eq_error hload with ⟨hnone, _⟩ | ⟨path, hfound, kind, hkind, hfail⟩
      · exact absurd hworkers (Int.not_le.2 hnone)
      · obtain ⟨hjson, hsuffix, bytes, hread, e, _, hexcess⟩ := loadArtifact_eq_fault_iff.1 hfail
        exact .inr ⟨place, rfl, path, hfound, ⟨⟨kind, hkind, hjson⟩, hsuffix⟩,
          bytes, hread, e, hexcess⟩

/-- A package with a JSON file that is too much to be read is not discovered. -/
theorem discover_ne_ok {path : String} (hroot : checkRoot fs root = .ok place)
    (hfound : path ∈ foundFiles fs exclude place) (hexcess : fs.HoldsExcess place path)
    (p : Package) :
    discover fs root exclude workers ≠ .ok p := by
  intro h
  obtain ⟨hjson, bytes, hread, e, hexcess⟩ := hexcess
  obtain ⟨kind, hclass, hkind⟩ :=
    hjson.classify (siblingsAmong (foundFiles fs exclude place)) p.referenced
  obtain ⟨a, ha, rfl, rfl⟩ := exists_artifact h hroot hfound hclass
  have hload := (found_of_mem_artifacts h hroot ha).2.2
  rw [loadArtifact_eq_fault_iff.2 ⟨hkind, hjson.2, bytes, hread, e, rfl, hexcess⟩] at hload
  cases hload

/-- Where all files can be read, no file is complained about. -/
theorem loadArtifacts_ne_invocation {files : List String} {name : String} {problem : RootProblem}
    (hreadable : ∀ path ∈ files,
      ∃ bytes, fs.read ((Path.Location.mk .top place).append path) = .ok bytes) :
    loadArtifacts fs place workers files ≠ .error (.invocation name problem) := by
  intro h
  rcases loadArtifacts_eq_error h with ⟨_, hnone⟩ | ⟨path, hpath, kind, _, hload⟩
  · cases hnone
  · obtain ⟨bytes, hread⟩ := hreadable path hpath
    rcases loadArtifact_of_read hread with ⟨a, ha⟩ | ⟨e, hexcess⟩
    · cases hload.symm.trans ha
    · cases hload.symm.trans hexcess

end Discovery

/-! ## Roots -/

section Roots

variable {fs : FileSystem} {settings : Settings} {root : String}

/-- A report names the root as the user did. -/
theorem root_of_validateRoot {report : Report} (h : validateRoot fs settings root = .ok report) :
    report.root = root := by
  unfold validateRoot at h
  split at h
  · obtain rfl := Except.ok.inj h
    rfl
  · cases h
  · split at h
    · cases h
    · obtain rfl := Except.ok.inj h
      rfl

/-- A root gets its report, unless it cannot be looked up or a JSON file is too much to be read. -/
theorem exists_report_of_root (hsized : fs.Sized) (hworkers : 1 ≤ settings.maxWorkers)
    (h : ¬fs.Unanswerable settings.exclude root) :
    ∃ report, validateRoot fs settings root = .ok report := by
  unfold validateRoot
  cases hdiscover : discover fs (Path.Location.ofString root)
    settings.exclude settings.maxWorkers with
  | error e =>
    cases e with
    | invocation name problem => exact ⟨_, rfl⟩
    | fault f => exact absurd (discover_eq_fault hworkers hdiscover) h
  | ok p =>
    obtain ⟨report, hreport⟩ := exists_report (numbered_of_discover hsized hdiscover) settings.rules
      (enabled_subset_catalog settings.rules.disabled)
    dsimp only
    rw [hreport]
    exact ⟨_, rfl⟩

/-- Where all files can be read, the two exceptions do occur. -/
theorem no_report_of_unanswerable (hreadable : fs.Readable settings.exclude root)
    (h : fs.Unanswerable settings.exclude root) (report : Report) :
    validateRoot fs settings root ≠ .ok report := by
  intro hreport
  unfold validateRoot at hreport
  cases hdiscover : discover fs (Path.Location.ofString root)
    settings.exclude settings.maxWorkers with
  | ok p =>
    obtain ⟨place, hroot, hload, _⟩ := discover_eq_ok hdiscover
    rcases h with hname | ⟨place', hroot', path, hfound, hexcess⟩
    · unfold checkRoot at hroot
      rw [hname] at hroot
      cases hroot
    · exact discover_ne_ok hroot' hfound hexcess p hdiscover
  | error e =>
    rw [hdiscover] at hreport
    cases e with
    | fault f => cases hreport
    | invocation name problem =>
      unfold discover at hdiscover
      rcases h with hname | ⟨place, hroot, _⟩
      · rw [checkRoot, hname] at hdiscover
        cases hdiscover
      · simp only [hroot, bind, Except.bind] at hdiscover
        cases hload : loadArtifacts fs place settings.maxWorkers
          (foundFiles fs settings.exclude place) with
        | ok artifacts =>
          rw [hload] at hdiscover
          cases hdiscover
        | error e =>
          rw [hload] at hdiscover
          obtain rfl := Except.error.inj hdiscover
          exact loadArtifacts_ne_invocation (hreadable place hroot) hload

end Roots

theorem mapM_exists_ok {f : α → Except ε β} {xs : List α} (h : ∀ x ∈ xs, ∃ y, f x = .ok y) :
    ∃ ys, xs.mapM f = .ok ys := by
  cases hxs : xs.mapM f with
  | ok ys => exact ⟨ys, rfl⟩
  | error e =>
    obtain ⟨x, hx, herror⟩ := mapM_eq_error hxs
    obtain ⟨y, hy⟩ := h x hx
    cases herror.symm.trans hy

/-- With settings that pass their tests a batch gets its reports unless a root cannot be looked up
or a JSON file below one is too much to be read, and these two do occur. The reports are in the
order of the roots, each that of its root alone. A JSON artifact holds its value or its fault. What
is too much has an integer with too many digits, or more brackets than there is room for. -/
theorem batch_answered {fs : FileSystem} {settings : Settings} (hsized : fs.Sized)
    (haccepted : settings.Accepted) (roots : List String) :
    ((∀ root ∈ roots, ¬fs.Unanswerable settings.exclude root) →
      ∃ reports, validate fs settings roots = .ok reports) ∧
      ((∀ root ∈ roots, fs.Readable settings.exclude root) →
        (∃ reports, validate fs settings roots = .ok reports) →
        ∀ root ∈ roots, ¬fs.Unanswerable settings.exclude root) ∧
      (∀ reports, validate fs settings roots = .ok reports ↔
        List.Forall₂ (fun root report => validateRoot fs settings root = .ok report ∧
          report.root = root) roots reports) ∧
      (∀ root ∈ roots, ∀ p,
        discover fs (Path.Location.ofString root) settings.exclude settings.maxWorkers = .ok p →
          ∀ a ∈ p.artifacts, a.kind.isJson = true → Path.hasSuffix Path.jsonSuffix a.path = true →
            (∃ v, Json.read fs.room a.text = .ok v ∧ a.content = .json v) ∨
              ∃ e, Json.read fs.room a.text = .error (.malformed e) ∧ a.content = .malformed e) ∧
      ∀ text e, Json.read fs.room text = .error (.excess e) → Json.Exceeds fs.room text e := by
  refine ⟨fun h => mapM_exists_ok fun root hroot => ?_,
    fun hreadable ⟨reports, h⟩ root hroot hunanswerable => ?_, fun reports =>
      ?_, fun root _ p hp a ha hkind hsuffix => ?_, fun text e => Json.exceeds_of_read⟩
  · exact exists_report_of_root hsized haccepted.workers (h root hroot)
  · obtain ⟨report, _, hreport⟩ := mem_of_mapM h hroot
    exact no_report_of_unanswerable (hreadable root hroot) hunanswerable report hreport
  · unfold validate
    rw [mapM_eq_ok_iff]
    exact ⟨fun h => h.imp fun root report hreport => ⟨hreport, root_of_validateRoot hreport⟩,
      fun h => h.imp fun _ _ => And.left⟩
  · exact (loaded_of_discover hp ha).1.value_or_fault hkind hsuffix

def longRow : List Char := List.replicate (maxDigits + 1) '1'

theorem unix_longRow : Text.Unix longRow := fun c hc => by
  obtain rfl := List.eq_of_mem_replicate hc
  decide

/-- A directory `a` with one file, and a directory `b` without files. -/
def besideEmpty (name : String) (bytes : Bytes) : FileSystem :=
  ⟨[(["a", name], bytes)], [["b"]], [], usualRoom⟩

section BesideEmpty

variable (name : String) (bytes : Bytes)

theorem checkRoot_besideEmpty : checkRoot (besideEmpty name bytes)
    (Path.Location.ofString "a") = .ok ["a"] ∧
    checkRoot (besideEmpty name bytes) (Path.Location.ofString "b") = .ok ["b"] ∧
    checkRoot (besideEmpty name bytes) (Path.Location.ofString "c") =
      .error (.invocation "c" .missing) :=
  ⟨by rfl, by rfl, by rfl⟩

theorem foundFiles_besideEmpty (exclude : List String) :
    foundFiles (besideEmpty name bytes) exclude ["b"] = [] :=
  sortPaths_eq (.refl _) .nil

theorem answerable_besideEmpty (exclude : List String) :
    ¬(besideEmpty name bytes).Unanswerable exclude "b" ∧
    ¬(besideEmpty name bytes).Unanswerable exclude "c" := by
  obtain ⟨_, hb, hc⟩ := checkRoot_besideEmpty name bytes
  constructor
  · rintro (hname | ⟨place, hroot, path, hpath, _⟩)
    · rw [checkRoot, hname] at hb
      cases hb
    · obtain rfl := Except.ok.inj (hb.symm.trans hroot)
      rw [foundFiles_besideEmpty] at hpath
      cases hpath
  · rintro (hname | ⟨place, hroot, _⟩)
    · rw [checkRoot, hname] at hc
      cases hc
    · cases hc.symm.trans hroot

theorem foundFiles_descriptor :
    foundFiles (besideEmpty descriptorName bytes) ({} : Settings).exclude ["a"] =
      [descriptorName] := by
  refine sortPaths_eq (List.Perm.of_eq ?_) (List.pairwise_singleton _ _)
  show ([[descriptorName]].filter (findsFile ({} : Settings).exclude)).map _ = _
  decide

theorem read_descriptor :
    (besideEmpty descriptorName bytes).read ((Path.Location.mk .top ["a"]).append descriptorName) =
      .ok bytes := by
  rfl

theorem readable_descriptor :
    ∀ root ∈ ["a", "b"], (besideEmpty descriptorName bytes).Readable
      ({} : Settings).exclude root := by
  obtain ⟨ha, hb, _⟩ := checkRoot_besideEmpty descriptorName bytes
  refine List.forall_mem_cons.2 ⟨fun place hroot => ?_,
    List.forall_mem_singleton.2 fun place hroot => ?_⟩
  · obtain rfl := Except.ok.inj (ha.symm.trans hroot)
    rw [foundFiles_descriptor]
    exact List.forall_mem_singleton.2 ⟨bytes, read_descriptor bytes⟩
  · obtain rfl := Except.ok.inj (hb.symm.trans hroot)
    rw [foundFiles_besideEmpty]
    exact List.forall_mem_nil _

/-- A root whose descriptor is not too much to be read gets its report. -/
theorem answerable_descriptor
    (h : ∀ e, Json.read usualRoom (Text.readText bytes) ≠ .error (.excess e)) :
    ¬(besideEmpty descriptorName bytes).Unanswerable ({} : Settings).exclude "a" := by
  obtain ⟨ha, _, _⟩ := checkRoot_besideEmpty descriptorName bytes
  rintro (hname | ⟨place, hroot, path, hpath, _, others, hread, e, hexcess⟩)
  · rw [checkRoot, hname] at ha
    cases ha
  · obtain rfl := Except.ok.inj (ha.symm.trans hroot)
    rw [foundFiles_descriptor, List.mem_singleton] at hpath
    obtain rfl := hpath
    obtain rfl := Except.ok.inj ((read_descriptor bytes).symm.trans hread)
    exact h e hexcess

/-- A descriptor that is too much to be read is a fault of its root. -/
theorem validateRoot_excess {e : Json.Excess}
    (h : Json.read usualRoom (Text.readText bytes) = .error (.excess e)) :
    validateRoot (besideEmpty descriptorName bytes) {} "a" = .error (.scan (.excess e)) := by
  have hload : loadArtifact (besideEmpty descriptorName bytes) ["a"] .descriptor descriptorName =
      .error (.fault (.excess e)) :=
    loadArtifact_eq_fault_iff.2 ⟨rfl, by decide, bytes, read_descriptor bytes, e, rfl, h⟩
  have hdescriptor : loadDescriptor (besideEmpty descriptorName bytes) ["a"] [descriptorName] =
      .error (.fault (.excess e)) := by
    rw [loadDescriptor, if_pos (by decide), hload]
    rfl
  have hdiscover : discover (besideEmpty descriptorName bytes)
    (Path.Location.ofString "a") ({} : Settings).exclude
      ({} : Settings).maxWorkers = .error (.fault (.excess e)) := by
    unfold discover
    simp only [(checkRoot_besideEmpty descriptorName bytes).1, bind, Except.bind,
      foundFiles_descriptor bytes, loadArtifacts_bind, hdescriptor]
  unfold validateRoot
  rw [hdiscover]

end BesideEmpty

/-- What is wrong with a text that holds nothing. -/
def emptyError : Json.SyntaxError := Json.SyntaxError.locate [] .noValue []

theorem read_nothing (room : Nat) : Json.read room [] = .error (.malformed emptyError) := by
  have hvalue : Json.readValue room [] [] = .error (.malformed .noValue []) := by
    rw [Json.readValue.eq_def]
    rfl
  have hblanks : Json.skipBlanks [] = [] := rfl
  unfold Json.read
  rw [hblanks, hvalue]
  rfl

/-- A descriptor that holds nothing. -/
def emptyDescriptor : Artifact := ⟨.descriptor, descriptorName, [], .malformed emptyError⟩

/-- What is discovered where the only file is a descriptor that holds nothing. -/
theorem discover_emptyDescriptor {fs : FileSystem} {root : Path.Location}
    {exclude : List String} {workers : Int} {place : Place} (hroot : checkRoot fs root = .ok place)
    (hworkers : 1 ≤ workers) (hfound : foundFiles fs exclude place = [descriptorName])
    (hread : fs.read ((Path.Location.mk .top place).append descriptorName) = .ok []) :
    discover fs root exclude workers =
      .ok ⟨place.text, [emptyDescriptor], groupUnits [emptyDescriptor]⟩ := by
  have hcontent : emptyDescriptor.Loaded fs.room := by
    have hsuffix : Path.hasSuffix Path.jsonSuffix descriptorName = true := by decide
    show Content.ofText fs.room .descriptor descriptorName [] = .ok (.malformed emptyError)
    rw [ofText_of_isJson rfl, if_pos hsuffix, read_nothing]
  have hload : loadArtifact fs place emptyDescriptor.kind emptyDescriptor.path =
      .ok emptyDescriptor :=
    loadArtifact_written hcontent (List.forall_mem_nil _) hread
  have hdescriptor : loadDescriptor fs place [descriptorName] = .ok (some emptyDescriptor) := by
    rw [loadDescriptor, if_pos (by decide)]
    exact congrArg _ hload
  exact discover_of_artifacts (some emptyDescriptor) [] hroot hworkers hfound hdescriptor (by rfl)
    (List.forall_mem_nil _) (List.pairwise_singleton _ _)

/-- A root with an empty descriptor, an empty root and a missing one get their reports, and the
fault of the descriptor is kept with it. -/
theorem batch_answered_emptyDescriptor :
    (besideEmpty descriptorName []).Sized ∧ ({} : Settings).Accepted ∧
    (∃ reports, validate (besideEmpty descriptorName []) {} ["a", "b", "c"] = .ok reports) ∧
    ∃ p, discover (besideEmpty descriptorName []) (Path.Location.ofString "a")
      ({} : Settings).exclude
        ({} : Settings).maxWorkers = .ok p ∧ ∃ d ∈ p.artifacts, d.path = descriptorName ∧
      ∃ e, Json.read usualRoom d.text = .error (.malformed e) ∧ d.content = .malformed e := by
  have hsized : (besideEmpty descriptorName []).Sized :=
    List.forall_mem_singleton.2 (countableBytes_of_lt (by decide))
  have hread := read_nothing usualRoom
  obtain ⟨hb, hc⟩ := answerable_besideEmpty descriptorName [] ({} : Settings).exclude
  have ha : ¬(besideEmpty descriptorName []).Unanswerable ({} : Settings).exclude "a" :=
    answerable_descriptor [] fun e he => by cases hread.symm.trans he
  have hdiscover :=
    discover_emptyDescriptor (checkRoot_besideEmpty descriptorName []).1
      Settings.accepted_default.workers
    (foundFiles_descriptor []) (read_descriptor [])
  obtain ⟨hreports, _, _, hkept, _⟩ :=
    batch_answered hsized Settings.accepted_default ["a", "b", "c"]
  refine ⟨hsized, Settings.accepted_default, hreports ?answerable, _, hdiscover, emptyDescriptor,
    List.mem_singleton_self _, rfl, ?kept⟩
  case answerable =>
    exact List.forall_mem_cons.2 ⟨ha, List.forall_mem_cons.2 ⟨hb, List.forall_mem_singleton.2 hc⟩⟩
  case kept =>
    rcases hkept "a" List.mem_cons_self _ hdiscover emptyDescriptor
      (List.mem_singleton_self _) rfl (by decide)
      with ⟨v, hv, _⟩ | hfault
    · cases hread.symm.trans hv
    · exact hfault

/-- One root whose descriptor is a row of digits leaves the whole batch without reports, though the
other root has one. -/
theorem batch_lost_longRow : (besideEmpty descriptorName (Text.encode longRow)).Sized ∧
    ({} : Settings).Accepted ∧
    (∀ root ∈ ["a", "b"], (besideEmpty descriptorName (Text.encode longRow)).Readable
      ({} : Settings).exclude root) ∧
    validate (besideEmpty descriptorName (Text.encode longRow)) {} ["a", "b"] =
      .error (.scan (.excess .longInteger)) ∧
    ∃ report, validateRoot (besideEmpty descriptorName (Text.encode longRow)) {} "b" =
      .ok report := by
  have hsized : (besideEmpty descriptorName (Text.encode longRow)).Sized := by
    refine List.forall_mem_singleton.2 (countableBytes_of_lt ?_)
    rw [Text.length_encode unix_longRow, longRow, List.length_replicate]
    decide
  have hlong : Json.read usualRoom (Text.readText (Text.encode longRow)) =
      .error (.excess .longInteger) := by
    have hrow : longRow = '1' :: List.replicate maxDigits '1' := List.replicate_succ
    rw [Text.readText_encode unix_longRow, hrow]
    refine Json.read_of_longRow usualRoom (List.forall_mem_cons.2 ⟨rfl, fun d hd => ?_⟩)
      (by decide) ?_
    · obtain rfl := List.eq_of_mem_replicate hd
      rfl
    · rw [List.length_cons, List.length_replicate]
      exact Nat.lt_succ_self _
  have hlost : validate (besideEmpty descriptorName (Text.encode longRow)) {} ["a", "b"] =
      .error (.scan (.excess .longInteger)) := by
    rw [validate, List.mapM_cons, validateRoot_excess _ hlong]
    rfl
  exact ⟨hsized, Settings.accepted_default, readable_descriptor _, hlost,
    exists_report_of_root hsized Settings.accepted_default.workers (answerable_besideEmpty _ _ _).1⟩

end TwinNode
