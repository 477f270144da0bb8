import TwinNode.Proofs.FileSystem.Replacement
import TwinNode.Proofs.Package.Contents
import TwinNode.Proofs.Package.JsonFile

/-! When a JSON file is replaced by a text with a syntax error, all artifacts that are read
from it hold that fault, and the others hold what they held. A damaged descriptor names
nothing, so that the artifacts that only a reference made part of a package are gone. All
this is one equation between the artifacts before and after. -/

namespace TwinNode

/-- A damaged file: the paths that lead to it, its text and the fault in it. -/
structure Damage where
  hits : String → Bool
  text : List Char
  error : Json.SyntaxError

namespace Damage

/-- An artifact as it is read when the file is damaged. -/
def on (x : Damage) (a : Artifact) : Artifact where
  kind := a.kind
  path := a.path
  text := if x.hits a.path then x.text else a.text
  content := if x.hits a.path then .malformed x.error else a.content

variable (x : Damage) {a : Artifact}

@[simp] theorem on_kind (a : Artifact) : (x.on a).kind = a.kind := rfl

@[simp] theorem on_path (a : Artifact) : (x.on a).path = a.path := rfl

theorem on_of_not_hit (h : x.hits a.path = false) : x.on a = a := by
  simp [on, h]

theorem syntaxError?_on :
    (x.on a).syntaxError? = if x.hits a.path then some x.error else a.syntaxError? := by
  cases h : x.hits a.path <;> simp [on, h, Artifact.syntaxError?]

theorem isParsed_on (h : (x.on a).isParsed = true) : x.hits a.path = false := by
  unfold Artifact.isParsed at h
  rw [syntaxError?_on] at h
  cases hhit : x.hits a.path with
  | false => rfl
  | true => simp [hhit] at h

theorem registrations_on (h : x.hits a.path = true) : (x.on a).registrations = [] := by
  simp [on, h, Artifact.registrations, Artifact.json?]

/-- What the descriptor still names. -/
def references (x : Damage) (p : Package) : List String :=
  if x.hits descriptorName then [] else p.referenced

theorem references_subset (p : Package) : x.references p ⊆ p.referenced := by
  unfold references
  split
  · exact List.nil_subset _
  · exact List.Subset.refl _

end Damage

/-- Whether an artifact is of its kind next to the given files and with the given references. -/
def Artifact.keptBy (files referenced : List String) (a : Artifact) : Bool :=
  classify (siblingsAmong files) referenced a.path = some a.kind

/-- The package as it is found when a file is damaged. -/
def Package.damaged (p : Package) (files : List String) (x : Damage) : Package :=
  let artifacts := (p.artifacts.filter (Artifact.keptBy files (x.references p))).map x.on
  ⟨p.root, artifacts, groupUnits artifacts⟩

/-- With fewer references, the files that are of a kind are some of those that are, in the same
order. -/
theorem classifyFiles_filter {files named referenced : List String} (h : named ⊆ referenced) :
    classifyFiles files named = (classifyFiles files referenced).filter fun entry =>
      classify (siblingsAmong files) named entry.1 = some entry.2 := by
  unfold classifyFiles
  rw [List.filter_filterMap]
  apply List.filterMap_congr
  intro path _
  cases hnamed : classify (siblingsAmong files) named path with
  | none => cases classify (siblingsAmong files) referenced path <;> simp [Option.filter, hnamed]
  | some kind =>
    rw [classify_mono (List.Subset.refl _) h hnamed]
    simp [Option.filter, hnamed]

section Read

variable {fs : FileSystem} {place file : Place} {bytes : Bytes}
  {e : Json.SyntaxError} {a : Artifact}

/-- The damage that is done by writing bytes to a file. -/
def FileSystem.damage (fs : FileSystem) (place file : Place) (bytes : Bytes)
    (e : Json.SyntaxError) : Damage where
  hits path := fs.find ((Path.Location.mk .top place).append path) = .ok file
  text := Text.readText bytes
  error := e

theorem hits_damage {path : String} : (fs.damage place file bytes e).hits path = true ↔
    fs.find ((Path.Location.mk .top place).append path) = .ok file := by
  simp [FileSystem.damage]

/-- What is loaded is read from a file. -/
theorem isFile_of_loadArtifact {kind : ArtifactKind} {path : String}
    (hload : loadArtifact fs place kind path = .ok a)
    (hfile : fs.find ((Path.Location.mk .top place).append path) = .ok file) :
    fs.isFile file = true := by
  unfold loadArtifact FileSystem.read at hload
  dsimp only at hload
  rw [hfile] at hload
  dsimp only at hload
  cases hcontents : fs.contents? file with
  | none =>
    rw [hcontents] at hload
    cases hload
  | some bytes =>
    obtain ⟨entry, hentry, _⟩ := Option.map_eq_some_iff.1 hcontents
    have hplace := List.find?_some hentry
    exact List.any_eq_true.2 ⟨entry, List.mem_of_find?_eq_some hentry, hplace⟩

/-- In another file system, what was loaded below a place is loaded with the damage done to it. -/
def Damage.Done (x : Damage) (fs fs' : FileSystem) (place : Place) : Prop :=
  ∀ kind path b, kindOfPath? path = some kind → loadArtifact fs place kind path = .ok b →
    loadArtifact fs' place kind path = .ok (x.on b)

theorem done_of_write (hsound : fs.Sound) (hisFile : fs.isFile file = true)
    (hjson : JsonFile a.path)
    (hfile : fs.find ((Path.Location.mk .top place).append a.path) = .ok file)
    (hfault : Json.read fs.room (Text.readText bytes) = .error (.malformed e)) :
    (fs.damage place file bytes e).Done fs (fs.write file bytes) place := by
  intro kind path b hkind hload
  obtain ⟨rfl, rfl, _⟩ := loadArtifact_eq_ok hload
  unfold loadArtifact at hload ⊢
  dsimp only at hload ⊢
  rw [FileSystem.read_replaced hsound hisFile, FileSystem.room_write]
  by_cases hhit : fs.find ((Path.Location.mk .top place).append b.path) = .ok file
  · have hhits : (fs.damage place file bytes e).hits b.path = true := hits_damage.2 hhit
    obtain ⟨⟨_, hkind', hisJson⟩, hsuffix⟩ := hjson.of_find hfile hkind hhit
    rw [hkind, Option.some.injEq] at hkind'
    subst hkind'
    rw [if_pos hhit, Damage.on, hhits, if_pos rfl, if_pos rfl]
    dsimp only
    rw [ofText_of_isJson hisJson, if_pos hsuffix, hfault]
    rfl
  · have hmiss : (fs.damage place file bytes e).hits b.path = false :=
      Bool.eq_false_iff.2 (mt hits_damage.1 hhit)
    rw [if_neg hhit, Damage.on_of_not_hit _ hmiss]
    exact hload

namespace Damage.Done

variable {x : Damage} {fs' : FileSystem} (hdone : x.Done fs fs' place) {files : List String}
include hdone

theorem loadDescriptor {descriptor : Option Artifact}
    (h : loadDescriptor fs place files = .ok descriptor) :
    TwinNode.loadDescriptor fs' place files = .ok (descriptor.map x.on) := by
  unfold TwinNode.loadDescriptor at h ⊢
  split_ifs at h ⊢
  · cases hl : loadArtifact fs place .descriptor descriptorName with
    | error e =>
      rw [hl] at h
      cases h
    | ok d =>
      rw [hl] at h
      rw [← Except.ok.inj h, hdone _ _ _ (kindOfPath?_descriptor.2 rfl) hl]
      rfl
  · rw [← Except.ok.inj h]
    rfl

theorem mapM_loadArtifact {named referenced : List String} (hnamed : named ⊆ referenced)
    {others : List Artifact}
    (h : (classifyFiles files referenced).mapM (fun entry => loadArtifact fs place
      entry.2 entry.1) = .ok others) :
    (classifyFiles files named).mapM (fun entry => loadArtifact fs' place entry.2 entry.1) =
      .ok ((others.filter (Artifact.keptBy files named)).map x.on) := by
  rw [classifyFiles_filter hnamed, mapM_eq_ok_iff, List.forall₂_map_right_iff]
  have hkinds : ∀ entry ∈ classifyFiles files referenced, kindOfPath? entry.1 = some entry.2 :=
    fun entry hentry =>
    (classify_eq_some_iff.1 (mem_classifyFiles.1 hentry).2.2).1
  have hloads := (List.forall₂_and_left _ _).2 ⟨hkinds, mapM_eq_ok_iff.1 h⟩
  apply (List.rel_filter ?_ hloads).imp
  · intro entry b hb
    exact hdone _ _ _ hb.1 hb.2
  · rintro entry b ⟨_, hb⟩
    obtain ⟨hkind, hpath, _⟩ := loadArtifact_eq_ok hb
    simp [Artifact.keptBy, hkind, hpath]

end Damage.Done

section Discovered

variable {root : Path.Location} {exclude : List String} {workers : Int} {p : Package}
  (h : discover fs root exclude workers = .ok p)
include h

theorem descriptor_path {d : Artifact} (hd : p.descriptor? = some d) : d.path = descriptorName := by
  have hkind : d.kind = .descriptor := by simpa using List.find?_some hd
  exact (loaded_of_discover h (List.mem_of_find?_eq_some hd)).2 hkind

variable (hroot : checkRoot fs root = .ok place)

include hroot in
theorem keptBy_referenced {b : Artifact} (hb : b ∈ p.artifacts) :
    b.keptBy (foundFiles fs exclude place) p.referenced = true :=
  decide_eq_true (found_of_mem_artifacts h hroot hb).2.1

/-- A damaged descriptor names nothing. -/
theorem referencedPaths_on (x : Damage) :
    referencedPaths (((p.descriptor?.map x.on).map Artifact.registrations).getD []) =
      x.references p := by
  unfold Damage.references
  cases hd : p.descriptor? with
  | none => simp [Package.referenced, hd, referencedPaths]
  | some d =>
    rw [← descriptor_path h hd]
    cases hhit : x.hits d.path with
    | true => simp [x.registrations_on hhit, referencedPaths]
    | false => simp [x.on_of_not_hit hhit, Package.referenced, hd]

include hroot in
/-- With a damaged file, discovery gives the artifacts that are still of their kind, and those that
are read from the file with the fault. -/
theorem discover_of_done {fs' : FileSystem} {x : Damage} (hdone : x.Done fs fs' place)
    (hroot' : checkRoot fs' root = .ok place)
    (hfound : foundFiles fs' exclude place = foundFiles fs exclude place) :
    discover fs' root exclude workers = .ok (p.damaged (foundFiles fs exclude place) x) := by
  obtain ⟨others, hdescriptor, hothers, hsorted⟩ := parts_of_discover h hroot
  obtain ⟨place', hplace, hload, hname, _⟩ := discover_eq_ok h
  have hworkers : 1 ≤ workers := by
    by_contra hless
    exact loadArtifacts_noWorker (by omega) hload
  have hothers' := hdone.mapM_loadArtifact (x.references_subset p) hothers
  rw [← referencedPaths_on h] at hothers'
  have hkept :
    p.descriptor?.toList.filter (Artifact.keptBy (foundFiles fs exclude place) (x.references p)) =
      p.descriptor?.toList := by
    apply List.filter_eq_self.2
    intro d hd
    have hpath := descriptor_path h (Option.mem_toList.1 hd)
    have hkind : d.kind = .descriptor := by simpa using List.find?_some (Option.mem_toList.1 hd)
    rw [Artifact.keptBy, hkind, hpath]
    exact decide_eq_true (classify_eq_some_iff.2 ⟨kindOfPath?_descriptor.2 rfl, nofun⟩)
  have htoList : (p.descriptor?.map x.on).toList = p.descriptor?.toList.map x.on := by
    cases p.descriptor? <;> rfl
  have hmap : ∀ l : List Artifact, (l.mergeSort fun a b => decide (a.path ≤ b.path)).map x.on =
      (l.map x.on).mergeSort fun a b => decide (a.path ≤ b.path) :=
        fun l => List.map_mergeSort fun _ _ _ _ => rfl
  rw [discover_of_parts hroot' hworkers hfound (hdone.loadDescriptor hdescriptor) hothers' rfl]
  unfold Package.damaged
  rw [referencedPaths_on h, hname, Except.ok.inj (hplace.symm.trans hroot), hsorted,
    filter_mergeSort byPath_trans byPath_total, List.filter_append, hkept, hmap,
      List.map_append, htoList]

end Discovered

end Read

end TwinNode
