import TwinNode.Proofs.Package.Slots
import TwinNode.Proofs.Path.Ending
import TwinNode.Proofs.Rule.Descriptor

/-! An entry of the node map belongs to a unit if the path that it names has the directory
and the stem of the unit. A host stub is registered if an entry names its path. So a
registered stub has a key in its unit. But an entry may also name another file of the unit,
such as its markup, or write the suffix in capital letters: then the unit has a key, and its
stub is not registered. -/

namespace TwinNode

open TwinNode.Json (Value)

namespace Path

/-- Two paths have one directory, and their names one stem. -/
def SameStem (path other : String) : Prop :=
  directory path = directory other ∧ stem (name path) = stem (name other)

/-- Two paths have one ending, and both of them begin with a directory or none does. -/
def SameEnding (path other : String) : Prop :=
  ending (name path) = ending (name other) ∧ ('/' ∈ path.toList ↔ '/' ∈ other.toList)

theorem eq_of_directory_of_name {path other : String} (hslash : '/' ∈ path.toList ↔
    '/' ∈ other.toList) (hdirectory : directory path = directory other)
      (hname : name path = name other) : path = other := by
  have hdirectory' := String.ofList_injective hdirectory
  have hname' := String.ofList_injective hname
  rw [← String.toList_inj]
  by_cases h : '/' ∈ path.toList
  · rw [← directoryChars_append_nameChars h, ← directoryChars_append_nameChars (hslash.1 h),
      hdirectory', hname']
  · rw [← nameChars_eq_self h, ← nameChars_eq_self (mt hslash.2 h), hname']

/-- A path is its directory, its stem and its ending. -/
theorem eq_iff_same {path other : String} :
    path = other ↔ SameStem path other ∧ SameEnding path other := by
  constructor
  · rintro rfl
    exact ⟨⟨rfl, rfl⟩, rfl, Iff.rfl⟩
  · rintro ⟨⟨hdirectory, hstem⟩, hending, hslash⟩
    refine eq_of_directory_of_name hslash hdirectory ?_
    rw [← stem_append_ending (name path), ← stem_append_ending (name other), hstem, hending]

end Path

section Discovered

variable {fs : FileSystem} {root : Path.Location} {exclude : List String}
  {workers : Int} {p : Package} (h : discover fs root exclude workers = .ok p)
include h

theorem unit_of_stub {u : NodeUnit} (hu : u ∈ p.units) {s : Artifact} (hs : u.stub = some s) :
    s ∈ p.ofKind .hostStub ∧ u = unitOf p.artifacts s.unitKey := by
  obtain ⟨key, _, rfl⟩ := (mem_units h).1 hu
  obtain ⟨hin, hkind, rfl⟩ := mem_of_slot? hs
  exact ⟨List.mem_filter.2 ⟨hin, decide_eq_true hkind⟩, rfl⟩

variable {d : Artifact} (hd : p.descriptor? = some d)
include hd

theorem registrationsAmong_of_discover : registrationsAmong p.artifacts = d.registrations := by
  obtain ⟨place, hroot, _⟩ := discover_eq_ok h
  have hpath : ∀ a ∈ p.artifacts, a.kind = .descriptor → a.path = descriptorName := by
    intro a ha hkind
    have hclass := (found_of_mem_artifacts h hroot ha).2.1
    rw [hkind] at hclass
    exact kindOfPath?_descriptor.1 (classify_eq_some_iff.1 hclass).1
  have hunique : ∀ a ∈ p.artifacts, ∀ b ∈ p.artifacts, a.kind = .descriptor →
      b.kind = .descriptor → a = b :=
    fun a ha b hb hka hkb =>
      artifact_eq_of_path h hroot ha hb ((hpath a ha hka).trans (hpath b hb hkb).symm)
  rw [registrationsAmong_eq hunique, show p.artifacts.find? (·.kind = .descriptor) = some d from hd]
  rfl

/-- The keys of the unit of an artifact are those with a reference to its directory and its stem,
whatever the suffix. -/
theorem mem_descriptorKeys_iff {s : Artifact} {key : String} :
    key ∈ (unitOf p.artifacts s.unitKey).descriptorKeys ↔
    ∃ reference, (key, Value.str reference) ∈ d.registrations ∧
      Path.SameStem (Path.stubPath (Path.normalizeReference reference)) s.path := by
  have hunit : ∀ reference, (referencedUnit reference == s.unitKey) = true ↔
      Path.SameStem (Path.stubPath (Path.normalizeReference reference)) s.path := by
    intro reference
    rw [beq_iff_eq]
    exact (Prod.mk.injEq _ _ _ _).to_iff
  unfold unitOf
  dsimp only
  rw [registrationsAmong_of_discover h hd]
  simp only [List.mem_map, List.mem_filter, Option.any_eq_true, hunit]
  constructor
  · rintro ⟨⟨key, value⟩, ⟨hin, reference, hvalue, hsame⟩, rfl⟩
    cases value with
    | str written =>
      obtain rfl := Option.some.inj hvalue
      exact ⟨written, hin, hsame⟩
    | null | bool | int | real | list | object => cases hvalue
  · rintro ⟨reference, hin, hsame⟩
    exact ⟨(key, .str reference), ⟨hin, reference, rfl, hsame⟩, rfl⟩

/-- The keys of a unit are those with a reference to its directory and its stem. The path that a
reference leads to is that of the stub if the ending is the same too, and the stub is registered if
this is so for one of the keys. -/
theorem key_of_unit_iff {u : NodeUnit} (hu : u ∈ p.units) {s : Artifact} (hs : u.stub = some s) :
    (∀ key, key ∈ u.descriptorKeys ↔ ∃ reference, (key, Value.str reference) ∈ d.registrations ∧
      Path.SameStem (Path.stubPath (Path.normalizeReference reference)) s.path) ∧
    (∀ reference, Path.stubPath (Path.normalizeReference reference) = s.path ↔
      Path.SameStem (Path.stubPath (Path.normalizeReference reference)) s.path ∧
        Path.SameEnding (Path.stubPath (Path.normalizeReference reference)) s.path) ∧
    ((d.registrations.filterMap fun entry =>
        Rule.registeredStub? p entry.2).contains s.path = true ↔
      ∃ key ∈ u.descriptorKeys, ∃ reference, (key, Value.str reference) ∈ d.registrations ∧
        Path.stubPath (Path.normalizeReference reference) = s.path) := by
  obtain ⟨place, hroot, _⟩ := discover_eq_ok h
  obtain ⟨hstub, rfl⟩ := unit_of_stub h hu hs
  refine ⟨fun _ => mem_descriptorKeys_iff h hd, fun _ => Path.eq_iff_same, ?_⟩
  rw [Rule.registered_iff (fun a ha b hb => artifact_eq_of_path h hroot ha hb) hstub]
  constructor
  · rintro ⟨⟨key, _⟩, hin, reference, rfl, hpath⟩
    have hsame : Path.SameStem (Path.stubPath (Path.normalizeReference reference)) s.path :=
      hpath ▸ ⟨rfl, rfl⟩
    exact ⟨key, (mem_descriptorKeys_iff h hd).2 ⟨reference, hin, hsame⟩, reference, hin, hpath⟩
  · rintro ⟨key, _, reference, hin, hpath⟩
    exact ⟨(key, .str reference), hin, reference, rfl, hpath⟩

end Discovered

/-- The unit of a registered stub has the key that registers it, and no other one. -/
theorem key_of_unit_halfRegistered :
    ∃ p, discover halfRegisteredFiles (Path.Location.ofString "/") [] 1 = .ok p ∧
    p.descriptor? = some halfRegisteredDescriptor ∧ ∃ u ∈ p.units, u.stub = some barScript ∧
      "bar" ∈ u.descriptorKeys ∧ "foo" ∉ u.descriptorKeys ∧
      (halfRegisteredDescriptor.registrations.filterMap fun entry =>
        Rule.registeredStub? p entry.2).contains barScript.path = true := by
  obtain ⟨p, hdiscover, hartifacts⟩ := discover_halfRegistered
  have hd : p.descriptor? = some halfRegisteredDescriptor := by
    unfold Package.descriptor?
    rw [hartifacts]
    rfl
  have hu : unitOf p.artifacts ("", "bar") ∈ p.units := by
    refine (mem_units hdiscover).2 ⟨_, ?_, rfl⟩
    rw [hartifacts]
    decide
  have hs : (unitOf p.artifacts ("", "bar")).stub = some barScript := by
    rw [hartifacts]
    rfl
  obtain ⟨hkeys, _, hregistered⟩ := key_of_unit_iff hdiscover hd hu hs
  have hnodes : halfRegisteredDescriptor.registrations =
      [("bar", .str "bar.js"), ("foo", .str "foo.js")] := by rfl
  rw [hnodes] at hkeys hregistered ⊢
  have hbar := (hkeys "bar").2 ⟨"bar.js", .head _, by decide, by decide⟩
  refine ⟨p, hdiscover, hd, _, hu, hs, hbar, fun hfoo => ?_,
    hregistered.2 ⟨"bar", hbar, "bar.js", .head _, by decide⟩⟩
  obtain ⟨reference, hin, _, hstem⟩ := (hkeys "foo").1 hfoo
  obtain rfl : reference = "foo.js" := by simpa using hin
  exact absurd hstem (by decide)

def pageRegistered : Value :=
  .object [("node-red", .object [("nodes", .object [("foo", .str "foo.html")])])]

theorem simple_pageRegistered : Json.Simple 3 pageRegistered := by
  have hnodes : Json.Simple 1 (.object [("foo", .str "foo.html")]) := by
    refine .object (List.cons_ne_nil _ _) (by decide) (by decide) ?_
    simp only [List.forall_mem_cons]
    exact ⟨.str (by decide), List.forall_mem_nil _⟩
  exact .entry (by decide) (.entry (by decide) hnodes)

def pageRegisteredFiles : FileSystem where
  files :=
    [(["foo.html"], []), (["foo.js"], []),
      (["package.json"], Text.encode pageRegistered.pretty.toList)]
  directories := []
  workingDirectory := []
  room := usualRoom

def pageRegisteredDescriptor : Artifact :=
  ⟨.descriptor, descriptorName, pageRegistered.pretty.toList, .json pageRegistered⟩

theorem discover_pageRegistered : ∃ p, discover pageRegisteredFiles
    (Path.Location.ofString "/") [] 1 = .ok p ∧
    p.artifacts = [emptyPage "foo.html", emptyStub "foo.js", pageRegisteredDescriptor] := by
  have hroot : checkRoot pageRegisteredFiles (Path.Location.ofString "/") = .ok [] := by rfl
  have hfound : foundFiles pageRegisteredFiles [] [] = ["foo.html", "foo.js", "package.json"] :=
    sortPaths_eq (by rfl) (by decide)
  have hread : pageRegisteredFiles.read ((Path.Location.mk .top []).append descriptorName) =
      .ok (Text.encode pageRegistered.pretty.toList) := by
    unfold pageRegisteredFiles
    generalize Text.encode pageRegistered.pretty.toList = bytes
    rfl
  refine ⟨_, discover_of_artifacts (some pageRegisteredDescriptor)
    [emptyPage "foo.html", emptyStub "foo.js"] hroot (by decide)
    hfound (loadDescriptor_written (by decide) simple_pageRegistered (by decide) hread)
      (by rfl) ?_ (by decide), rfl⟩
  simp only [List.forall_mem_cons]
  exact ⟨by rfl, by rfl, List.forall_mem_nil _⟩

/-- The unit has the key, although its value leads to the markup and the stub is not registered. -/
theorem key_of_page : ∃ p, discover pageRegisteredFiles (Path.Location.ofString "/") [] 1 = .ok p ∧
    ∃ d, p.descriptor? = some d ∧ d.registrations = [("foo", .str "foo.html")] ∧
      ∃ u ∈ p.units, ∃ s, u.stub = some s ∧ u.descriptorKeys = ["foo"] ∧
        Path.stubPath (Path.normalizeReference "foo.html") ≠ s.path ∧
        (d.registrations.filterMap fun entry => Rule.registeredStub? p entry.2).contains s.path =
          false := by
  obtain ⟨p, hdiscover, hartifacts⟩ := discover_pageRegistered
  refine ⟨p, hdiscover, pageRegisteredDescriptor, ?_, by rfl, unitOf p.artifacts ("", "foo"), ?_,
    emptyStub "foo.js", ?_, ?_, by decide, ?_⟩
  · unfold Package.descriptor?
    rw [hartifacts]
    rfl
  · refine (mem_units hdiscover).2 ⟨_, ?_, rfl⟩
    rw [hartifacts]
    decide
  · rw [hartifacts]
    rfl
  · rw [hartifacts]
    rfl
  · have hnone : Rule.registeredStub? p (.str "foo.html") = none := by
      refine Option.eq_none_iff_forall_ne_some.2 fun path hpath => ?_
      have hget : p.get? "foo.html" = some (emptyPage "foo.html") := by
        unfold Package.get?
        rw [hartifacts]
        rfl
      rcases (Rule.registeredStub?_str.1 hpath).2 with hdevice | hstub
      · exact absurd hdevice (by decide)
      · rw [show Path.normalizeReference "foo.html" = "foo.html" by decide, hget] at hstub
        exact absurd hstub (by decide)
    show ([("foo", Value.str "foo.html")].filterMap fun entry =>
      Rule.registeredStub? p entry.2).contains "foo.js" = false
    rw [List.filterMap_cons_none (f := fun entry : String × Value => Rule.registeredStub? p entry.2)
      hnone]
    rfl

end TwinNode
