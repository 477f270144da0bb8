import Mathlib.Data.List.Forall2
import Mathlib.Data.List.Perm.Basic
import Mathlib.Tactic.SplitIfs
import TwinNode.Package.Discovery
import TwinNode.Proofs.Json.ReadBack
import TwinNode.Proofs.Text.Encoding

namespace TwinNode

/-- The content of an artifact is taken from its text. -/
def Artifact.Loaded (room : Nat) (a : Artifact) : Prop :=
  Content.ofText room a.kind a.path a.text = .ok a.content

theorem Artifact.Loaded.script {room : Nat} {a : Artifact} (h : a.Loaded room)
    (hk : a.kind = .hostStub ∨ a.kind = .deviceScript) :
    a.content = .scanned (Script.views a.text) := by
  unfold Loaded at h
  rcases hk with hk | hk <;> rw [hk] at h <;> exact (Except.ok.inj h).symm

theorem Artifact.Loaded.markup {room : Nat} {a : Artifact} (h : a.Loaded room)
    (hk : a.kind = .editorMarkup) :
    a.content = .scanned (Markup.views a.text) := by
  unfold Loaded at h
  rw [hk] at h
  exact (Except.ok.inj h).symm

theorem Artifact.Loaded.json {room : Nat} {a : Artifact} (h : a.Loaded room) {v : Json.Value}
    (hv : a.content = .json v) : Json.read room a.text = .ok v := by
  have hcontent : Content.ofText room a.kind a.path a.text = .ok (.json v) := hv ▸ h
  unfold Content.ofText at hcontent
  split at hcontent
  · cases hcontent
  · cases hcontent
  · cases hcontent
  · split at hcontent
    · split at hcontent
      · next hread =>
        cases hcontent
        exact hread
      · cases hcontent
      · cases hcontent
    · cases hcontent

/-- What the text of a file holds that is JSON by its kind. -/
theorem ofText_of_isJson {kind : ArtifactKind} (hk : kind.isJson = true) (room : Nat)
    (path : String) (text : List Char) :
    Content.ofText room kind path text =
      if Path.hasSuffix Path.jsonSuffix path = true then
        match Json.read room text with
        | .ok v => .ok (.json v)
        | .error (.malformed e) => .ok (.malformed e)
        | .error (.excess e) => .error e
      else .ok .present := by
  cases kind with
  | hostStub | deviceScript | editorMarkup => cases hk
  | descriptor | manifest | localeBundle => rfl

/-- A JSON artifact holds the value of its text or its fault. -/
theorem Artifact.Loaded.value_or_fault {room : Nat} {a : Artifact} (h : a.Loaded room)
    (hkind : a.kind.isJson = true) (hsuffix : Path.hasSuffix Path.jsonSuffix a.path = true) :
    (∃ v, Json.read room a.text = .ok v ∧ a.content = .json v) ∨
      ∃ e, Json.read room a.text = .error (.malformed e) ∧ a.content = .malformed e := by
  unfold Artifact.Loaded at h
  rw [ofText_of_isJson hkind, if_pos hsuffix] at h
  split at h
  · next v hread => exact .inl ⟨v, hread, (Except.ok.inj h).symm⟩
  · next e hread => exact .inr ⟨e, hread, (Except.ok.inj h).symm⟩
  · cases h

theorem ofText_json {nesting room : Nat} {kind : ArtifactKind} {path : String} {v : Json.Value}
    (hk : kind.isJson = true) (hp : Path.hasSuffix Path.jsonSuffix path = true)
    (hv : Json.Simple nesting v) (hroom : nesting ≤ room) :
    Content.ofText room kind path v.pretty.toList = .ok (.json v) := by
  rw [ofText_of_isJson hk, if_pos hp, Json.read_pretty hv hroom]

theorem isNodePart_iff {k : ArtifactKind} :
    k.isNodePart = true ↔ (k = .hostStub ∨ k = .deviceScript) ∨ k = .editorMarkup := by
  cases k <;> decide

theorem loadArtifact_eq_ok {fs : FileSystem} {root : Place} {kind : ArtifactKind}
    {path : String} {a : Artifact} (h : loadArtifact fs root kind path = .ok a) :
    a.kind = kind ∧ a.path = path ∧ a.Loaded fs.room := by
  unfold loadArtifact at h
  dsimp only at h
  split at h
  · cases h
  · split at h
    · cases h
    · next hcontent =>
      obtain rfl := Except.ok.inj h
      exact ⟨rfl, rfl, hcontent⟩

theorem read_of_loadArtifact {fs : FileSystem} {root : Place} {kind : ArtifactKind}
    {path : String} {a : Artifact} (h : loadArtifact fs root kind path = .ok a) :
    ∃ bytes, fs.read ((Path.Location.mk .top root).append path) = .ok bytes ∧
      a.text = Text.readText bytes := by
  unfold loadArtifact at h
  dsimp only at h
  split at h
  · cases h
  · next bytes hread =>
    split at h
    · cases h
    · obtain rfl := Except.ok.inj h
      exact ⟨bytes, hread, rfl⟩

theorem loadArtifact_written {fs : FileSystem} {place : Place}
    {a : Artifact} (hl : a.Loaded fs.room) (hu : Text.Unix a.text)
    (hr : fs.read ((Path.Location.mk .top place).append a.path) = .ok (Text.encode a.text)) :
    loadArtifact fs place a.kind a.path = .ok a := by
  unfold Artifact.Loaded at hl
  unfold loadArtifact
  dsimp only
  rw [hr]
  dsimp only
  rw [Text.readText_encode hu, hl]

theorem mapM_eq_ok_iff {f : α → Except ε β} {xs : List α} {ys : List β} :
    xs.mapM f = .ok ys ↔ List.Forall₂ (fun x y => f x = .ok y) xs ys := by
  induction xs generalizing ys with
  | nil => cases ys <;> simp [pure, Except.pure]
  | cons x xs ih =>
    rw [List.mapM_cons]
    cases hx : f x with
    | error e => cases ys <;> simp [hx, bind, Except.bind]
    | ok y =>
      cases hxs : xs.mapM f with
      | error e => cases ys <;> simp [hx, hxs, ← ih, bind, Except.bind]
      | ok zs => cases ys <;> simp [hx, hxs, ← ih, bind, Except.bind, pure, Except.pure]

theorem exists_of_forall₂ {R : α → β → Prop} {xs : List α} {ys : List β}
    (h : List.Forall₂ R xs ys) {y : β} (hy : y ∈ ys) : ∃ x ∈ xs, R x y := by
  induction h with
  | nil => cases hy
  | @cons x _ xs ys hxy _ ih =>
    rcases List.mem_cons.1 hy with rfl | hy
    · exact ⟨x, List.mem_cons_self, hxy⟩
    · obtain ⟨x', hx', hR⟩ := ih hy
      exact ⟨x', List.mem_cons_of_mem x hx', hR⟩

theorem mem_of_mapM {f : α → Except ε β} {xs : List α} {ys : List β}
    (h : xs.mapM f = .ok ys) {x : α} (hx : x ∈ xs) :
    ∃ y ∈ ys, f x = .ok y := exists_of_forall₂ (mapM_eq_ok_iff.1 h).flip hx

theorem exists_of_mapM {f : α → Except ε β} {xs : List α} {ys : List β}
    (h : xs.mapM f = .ok ys) {y : β} (hy : y ∈ ys) : ∃ x ∈ xs, f x = .ok y :=
      exists_of_forall₂ (mapM_eq_ok_iff.1 h) hy

theorem mapM_eq_error {f : α → Except ε β} {xs : List α} {e : ε} (h : xs.mapM f = .error e) :
    ∃ x ∈ xs, f x = .error e := by
  induction xs with
  | nil => cases h
  | cons x xs ih =>
    rw [List.mapM_cons] at h
    cases hx : f x with
    | error e' =>
      rw [hx] at h
      exact ⟨x, List.mem_cons_self, by rw [hx, ← Except.error.inj h]⟩
    | ok y =>
      rw [hx] at h
      cases hxs : xs.mapM f with
      | error e' =>
        rw [hxs] at h
        obtain ⟨x', hx', herror⟩ := ih (by rw [hxs, ← Except.error.inj h])
        exact ⟨x', List.mem_cons_of_mem x hx', herror⟩
      | ok ys =>
        rw [hxs] at h
        cases h

theorem mapM_congr_of_mem {f g : α → Except ε β} {xs : List α} (h : ∀ x ∈ xs, f x = g x) :
    xs.mapM f = xs.mapM g := by
  induction xs with
  | nil => rfl
  | cons x xs ih =>
    obtain ⟨hx, hxs⟩ := List.forall_mem_cons.1 h
    rw [List.mapM_cons, List.mapM_cons, hx, ih hxs]

theorem mapM_perm {f : α → Except ε β} {xs ys : List α} {zs : List β} (h : xs.Perm ys)
    (hy : ys.mapM f = .ok zs) :
    ∃ zs', xs.mapM f = .ok zs' ∧ zs'.Perm zs := by
  obtain ⟨zs', hf, hperm⟩ := List.perm_comp_forall₂ h (mapM_eq_ok_iff.1 hy)
  exact ⟨zs', mapM_eq_ok_iff.2 hf, hperm⟩

theorem mapM_map_eq_ok {f : α → Except ε β} {g : β → α} {ys : List β}
    (h : ∀ y ∈ ys, f (g y) = .ok y) :
    (ys.map g).mapM f = .ok ys := by
  rw [mapM_eq_ok_iff, List.forall₂_map_left_iff, List.forall₂_same]
  exact h

/-- The descriptor below a root, if there is one. -/
def loadDescriptor (fs : FileSystem) (root : Place) (files : List String) :
    Except DiscoveryError (Option Artifact) :=
  if files.contains descriptorName then
    (loadArtifact fs root .descriptor descriptorName).map some
  else .ok none

theorem loadDescriptor_written {nesting : Nat} {fs : FileSystem} {root : Place}
    {files : List String} {v : Json.Value} (hin : descriptorName ∈ files)
    (hv : Json.Simple nesting v) (hroom : nesting ≤ fs.room)
    (hread : fs.read ((Path.Location.mk .top root).append descriptorName) =
      .ok (Text.encode v.pretty.toList)) :
    loadDescriptor fs root files =
      .ok (some ⟨.descriptor, descriptorName, v.pretty.toList, .json v⟩) := by
  have hcontent : Content.ofText fs.room .descriptor descriptorName v.pretty.toList =
      .ok (.json v) :=
    ofText_json rfl (by decide) hv hroom
  have hload :=
    loadArtifact_written (a := ⟨.descriptor, descriptorName, v.pretty.toList, .json v⟩) hcontent
    (Json.unix_indented hv 0) hread
  rw [loadDescriptor, if_pos (List.contains_iff_mem.2 hin), hload]
  rfl

/-- The artifacts below a root, given its descriptor. -/
def loadBeside (fs : FileSystem) (root : Place) (files : List String)
    (descriptor : Option Artifact) :
    Except DiscoveryError (List Artifact) :=
  ((classifyFiles files (referencedPaths ((descriptor.map Artifact.registrations).getD []))).mapM
    fun entry => loadArtifact fs root entry.2 entry.1).map
      fun others => (others ++ descriptor.toList).mergeSort fun a b => a.path ≤ b.path

section Artifacts

variable {fs : FileSystem} {root : Place} {workers : Int} {files : List String}
  {artifacts : List Artifact}

theorem loadArtifacts_bind : loadArtifacts fs root workers files =
    (loadDescriptor fs root files).bind fun descriptor =>
      if workers < 1 then .error (.fault .noWorker) else loadBeside fs root files descriptor := by
  unfold loadArtifacts loadDescriptor
  by_cases hw : workers < 1
  · simp only [hw, if_true]
    split
    · cases loadArtifact fs root .descriptor descriptorName <;> rfl
    · rfl
  · simp only [hw, if_false]
    split <;> rfl

theorem loadArtifacts_eq (h : 1 ≤ workers) :
    loadArtifacts fs root workers files =
      (loadDescriptor fs root files).bind (loadBeside fs root files) := by
  have hw : ¬workers < 1 := by omega
  rw [loadArtifacts_bind]
  simp only [hw, if_false]

theorem loadArtifacts_noWorker (h : workers < 1) :
    loadArtifacts fs root workers files ≠ .ok artifacts := by
  rw [loadArtifacts_bind]
  simp only [h, if_true]
  cases loadDescriptor fs root files <;> rintro ⟨⟩

theorem loadArtifacts_eq_ok (h : loadArtifacts fs root workers files = .ok artifacts) :
    ∃ descriptor, loadDescriptor fs root files = .ok descriptor ∧
      loadBeside fs root files descriptor = .ok artifacts := by
  by_cases hw : workers < 1
  · exact absurd h (loadArtifacts_noWorker hw)
  · rw [loadArtifacts_eq (by omega)] at h
    cases hd : loadDescriptor fs root files with
    | error e =>
      rw [hd] at h
      cases h
    | ok descriptor =>
      rw [hd] at h
      exact ⟨descriptor, rfl, h⟩

theorem loadDescriptor_eq_some {d : Artifact} (h : loadDescriptor fs root files = .ok (some d)) :
    loadArtifact fs root .descriptor descriptorName = .ok d := by
  unfold loadDescriptor at h
  split at h
  · cases hl : loadArtifact fs root .descriptor descriptorName with
    | error e =>
      rw [hl] at h
      cases h
    | ok d' =>
      rw [hl] at h
      rw [Option.some.inj (Except.ok.inj h)]
  · cases h

theorem loadBeside_eq_ok {descriptor : Option Artifact}
    (h : loadBeside fs root files descriptor = .ok artifacts) :
    ∃ others,
      (classifyFiles files (referencedPaths ((descriptor.map Artifact.registrations).getD []))).mapM
        (fun entry => loadArtifact fs root entry.2 entry.1) = .ok others ∧
      artifacts = (others ++ descriptor.toList).mergeSort fun a b => a.path ≤ b.path := by
  unfold loadBeside at h
  cases hm : (classifyFiles files
    (referencedPaths ((descriptor.map Artifact.registrations).getD []))).mapM
      fun entry => loadArtifact fs root entry.2 entry.1 with
  | error e =>
    rw [hm] at h
    cases h
  | ok others =>
    rw [hm] at h
    exact ⟨others, rfl, (Except.ok.inj h).symm⟩

theorem classifyFiles_ne_descriptor {referenced : List String} {entry : String × ArtifactKind}
    (h : entry ∈ classifyFiles files referenced) : entry.2 ≠ .descriptor := by
  unfold classifyFiles at h
  obtain ⟨path, hp, hc⟩ := List.mem_filterMap.1 h
  obtain ⟨kind, hk, rfl⟩ := Option.map_eq_some_iff.1 hc
  have hne : path ≠ descriptorName := by simpa using (List.mem_filter.1 hp).2
  unfold classify at hk
  rw [if_neg hne] at hk
  rintro rfl
  dsimp only at hk
  split_ifs at hk <;> cases hk

theorem loaded_of_loadArtifacts (h : loadArtifacts fs root workers files = .ok artifacts)
    {a : Artifact} (ha : a ∈ artifacts) :
    a.Loaded fs.room ∧ (a.kind = .descriptor → a.path = descriptorName) := by
  obtain ⟨descriptor, hd, hb⟩ := loadArtifacts_eq_ok h
  obtain ⟨others, ho, rfl⟩ := loadBeside_eq_ok hb
  rcases List.mem_append.1 (List.mem_mergeSort.1 ha) with ha | ha
  · obtain ⟨entry, hentry, hload⟩ := exists_of_mapM ho ha
    obtain ⟨hkind, _, hloaded⟩ := loadArtifact_eq_ok hload
    refine ⟨hloaded, fun hdesc => ?_⟩
    exact absurd (hkind.symm.trans hdesc) (classifyFiles_ne_descriptor hentry)
  · obtain rfl := Option.mem_toList.1 ha
    obtain ⟨_, hpath, hloaded⟩ := loadArtifact_eq_ok (loadDescriptor_eq_some hd)
    exact ⟨hloaded, fun _ => hpath⟩

end Artifacts

theorem discover_eq_ok {fs : FileSystem} {root : Path.Location}
    {exclude : List String} {workers : Int} {p : Package}
    (h : discover fs root exclude workers = .ok p) :
    ∃ place, checkRoot fs root = .ok place ∧
      loadArtifacts fs place workers (foundFiles fs exclude place) = .ok p.artifacts ∧
      p.root = Place.text place ∧ p.units = groupUnits p.artifacts := by
  unfold discover at h
  cases hr : checkRoot fs root with
  | error e => simp [hr, bind, Except.bind] at h
  | ok place =>
    cases hl : loadArtifacts fs place workers (foundFiles fs exclude place) with
    | error e => simp [hr, hl, bind, Except.bind] at h
    | ok artifacts =>
      simp only [hr, hl, bind, Except.bind, Except.ok.injEq] at h
      subst h
      exact ⟨place, rfl, hl, rfl, rfl⟩

/-- The artifacts of a discovered package hold what their texts say. -/
theorem loaded_of_discover {fs : FileSystem} {root : Path.Location}
    {exclude : List String} {workers : Int} {p : Package}
    (h : discover fs root exclude workers = .ok p) {a : Artifact} (ha : a ∈ p.artifacts) :
    a.Loaded fs.room ∧ (a.kind = .descriptor → a.path = descriptorName) := by
  obtain ⟨place, _, hl, _⟩ := discover_eq_ok h
  exact loaded_of_loadArtifacts hl ha

end TwinNode
