import TwinNode.Proofs.Rule.Places

/-! No file has so many bytes that their number takes more than `Text.maxDigits` digits. Its
lines and columns are then numbers that can be read, and so whatever the rules report on its
package can be put in order. -/

namespace TwinNode

open TwinNode.Json (SyntaxError)
open TwinNode.Text (maxDigits)

/-- The bytes of a file are no more than can be counted with `Text.maxDigits` digits. -/
def CountableBytes (bytes : Bytes) : Prop := bytes.length + 1 < 10 ^ maxDigits

/-- The files have sizes that can be written down. -/
def FileSystem.Sized (fs : FileSystem) : Prop := ∀ file ∈ fs.files, CountableBytes file.2

theorem countableBytes_of_lt {bytes : Bytes} (h : bytes.length + 1 < 10 ^ 4) :
    CountableBytes bytes :=
  Nat.lt_of_lt_of_le h (Nat.pow_le_pow_right (by decide) (by decide))

theorem FileSystem.Sized.read {fs : FileSystem} (h : fs.Sized) {l : Path.Location} {bytes : Bytes}
    (hread : fs.read l = .ok bytes) : CountableBytes bytes := by
  unfold FileSystem.read at hread
  split at hread
  · cases hread
  · split at hread
    · next hcontents =>
      obtain rfl := Except.ok.inj hread
      obtain ⟨file, hfile, rfl⟩ := Option.map_eq_some_iff.1 hcontents
      exact h file (List.mem_of_find?_eq_some hfile)
    · cases hread

theorem line_locate_le (text : List Char) (problem : Json.Problem) (rest : List Char) :
    (SyntaxError.locate text problem rest).line ≤ text.length + 1 ∧
      (SyntaxError.locate text problem rest).column ≤ text.length + 1 := by
  have htake : (text.take (text.length - rest.length)).length ≤ text.length :=
    (List.take_sublist _ _).length_le
  have hcount : (text.take (text.length - rest.length)).count '\n' ≤ _ := List.count_le_length
  have hline :=
    (List.takeWhile_sublist (· != '\n')
      (l := (text.take (text.length - rest.length)).reverse)).length_le
  rw [List.length_reverse] at hline
  unfold SyntaxError.locate
  dsimp only
  exact ⟨by omega, by omega⟩

theorem Json.place_of_read {room : Nat} {text : List Char} {e : SyntaxError}
    (h : Json.read room text = .error (.malformed e)) :
    e.line ≤ text.length + 1 ∧ e.column ≤ text.length + 1 := by
  unfold Json.read at h
  dsimp only at h
  split at h
  · cases h
  · cases h
  · obtain rfl := Json.ReadError.malformed.inj (Except.error.inj h)
    exact line_locate_le _ _ _

theorem Artifact.Loaded.views {room : Nat} {a : Artifact} (h : a.Loaded room) {v : Views}
    (hv : a.views? = some v) : v.source = a.text := by
  unfold Artifact.views? at hv
  split at hv
  · next hcontent =>
    obtain rfl := Option.some.inj hv
    by_cases hpart : a.kind.isNodePart = true
    · rcases isNodePart_iff.1 hpart with hk | hk
      · rw [h.script hk] at hcontent
        obtain rfl := Content.scanned.inj hcontent
        rfl
      · rw [h.markup hk] at hcontent
        obtain rfl := Content.scanned.inj hcontent
        rfl
    · have hofText := h
      unfold Artifact.Loaded Content.ofText at hofText
      rw [hcontent] at hofText
      split at hofText
      · next hk => exact absurd (by rw [hk]; rfl) hpart
      · next hk => exact absurd (by rw [hk]; rfl) hpart
      · next hk => exact absurd (by rw [hk]; rfl) hpart
      · split at hofText
        · split at hofText <;> cases hofText
        · cases hofText
  · cases hv

theorem Artifact.Loaded.malformed {room : Nat} {a : Artifact} (h : a.Loaded room) {e : SyntaxError}
    (he : a.syntaxError? = some e) : Json.read room a.text = .error (.malformed e) := by
  unfold Artifact.syntaxError? at he
  split at he
  · next hcontent =>
    obtain rfl := Option.some.inj he
    unfold Artifact.Loaded Content.ofText at h
    rw [hcontent] at h
    split at h
    · cases h
    · cases h
    · cases h
    · split at h
      · split at h
        · cases h
        · next hread =>
          obtain rfl := Content.malformed.inj (Except.ok.inj h)
          exact hread
        · cases h
      · cases h
  · cases he

theorem Artifact.Loaded.numbered {room : Nat} {a : Artifact} (h : a.Loaded room)
    (hsize : a.text.length + 1 < 10 ^ maxDigits) : a.Numbered := by
  refine ⟨fun v hv => ?_, fun e he => ?_⟩
  · rw [h.views hv]
    have hcount : a.text.count '\n' ≤ a.text.length := List.count_le_length
    omega
  · obtain ⟨hline, hcolumn⟩ := Json.place_of_read (h.malformed he)
    exact ⟨by omega, by omega⟩

theorem numbered_of_loadArtifact {fs : FileSystem} (hsized : fs.Sized) {root : Place}
    {kind : ArtifactKind} {path : String} {a : Artifact}
    (h : loadArtifact fs root kind path = .ok a) : a.Numbered := by
  obtain ⟨bytes, hread, htext⟩ := read_of_loadArtifact h
  have hbytes : bytes.length + 1 < 10 ^ maxDigits := hsized.read hread
  have hlength := Text.length_readText_le bytes
  refine (loadArtifact_eq_ok h).2.2.numbered ?_
  rw [htext]
  omega

theorem numbered_of_discover {fs : FileSystem} (hsized : fs.Sized)
    {root : Path.Location} {exclude : List String} {workers : Int} {p : Package}
    (h : discover fs root exclude workers = .ok p) : ∀ a ∈ p.artifacts, a.Numbered := by
  obtain ⟨place, hroot, _⟩ := discover_eq_ok h
  exact fun a ha => numbered_of_loadArtifact hsized (found_of_mem_artifacts h hroot ha).2.2

end TwinNode
