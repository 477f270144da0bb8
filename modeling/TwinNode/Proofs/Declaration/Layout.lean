import TwinNode.Proofs.Declaration.Identity
import TwinNode.Proofs.Scan.Masking

/-! Phrases are searched for in the skeleton, and reported places are lines. So two texts
with one skeleton that break lines together differ only in what is read at literals: all
else that is known about them is the same, and so are the type names where the same is read.
-/

namespace TwinNode

namespace Views

/-- Two texts with the same skeleton and the same lines. -/
structure SameLayout (v w : Views) : Prop where
  skeleton : v.skeleton = w.skeleton
  location : v.location = w.location

theorem Aligned.sameLayout {v w : Views} (hv : v.Aligned) (hw : w.Aligned)
    (h : v.skeleton = w.skeleton) :
    v.SameLayout w where
  skeleton := h
  location := by
    funext offset
    unfold Views.location
    rw [hv.lineOf_eq, hw.lineOf_eq, h]

namespace SameLayout

variable {v w : Views} (h : v.SameLayout w)
include h

theorem find_eq (p : Phrase) : v.find p = w.find p := by
  unfold find
  rw [h.skeleton]

theorem staticRegistration?_eq : v.staticRegistration? = w.staticRegistration? := by
  unfold staticRegistration? findIn
  rw [h.find_eq, h.skeleton]

theorem presence_eq (path : String) (name : FactName) (place : Option Nat) :
    v.presence path name place = w.presence path name place := by
  unfold presence
  rw [h.location]

omit h in
theorem formAfter_eq {occurrences : List Span}
    (hread : ∀ o ∈ occurrences, (v.literal? o.stop).isSome = (w.literal? o.stop).isSome) :
    v.formAfter occurrences = w.formAfter occurrences := by
  have hany : (occurrences.any fun o => (v.literalAfter? o.stop).isSome) =
      occurrences.any fun o => (w.literalAfter? o.stop).isSome := by
    rw [Bool.eq_iff_iff, List.any_eq_true, List.any_eq_true]
    refine exists_congr fun o => and_congr_right fun ho => ?_
    unfold literalAfter?
    rw [Option.isSome_map, Option.isSome_map, hread o ho]
  unfold formAfter
  rw [hany]

theorem stub_facts_eq {settings : RuleSettings} {path : String}
    (hread : ∀ o ∈ v.find .registerCall, (v.literal? o.stop).isSome = (w.literal? o.stop).isSome) :
    (stubDeclarations settings path v).facts.filter (·.name != .referencesDeviceModule) =
      (stubDeclarations settings path w).facts.filter (·.name != .referencesDeviceModule) := by
  unfold stubDeclarations registrations
  rw [formAfter_eq hread, h.find_eq, h.find_eq, h.presence_eq]
  simp [presence]

theorem device_facts_eq {path : String}
    (hfields : ∀ o ∈ v.find .staticType, (v.literal? o.stop).isSome = (w.literal? o.stop).isSome)
    (hcalls : ∀ o ∈ v.find .registerCall, (v.literal? o.stop).isSome = (w.literal? o.stop).isSome) :
    (deviceDeclarations path v).facts = (deviceDeclarations path w).facts := by
  unfold deviceDeclarations registrations
  simp only [FactSet.append_facts]
  rw [formAfter_eq hfields, formAfter_eq hcalls]
  simp only [h.find_eq, h.presence_eq, h.staticRegistration?_eq]

section Code

variable (hcode : v.code = w.code)
include hcode

theorem literal?_eq (offset : Nat) : v.literal? offset = w.literal? offset := by
  unfold literal?
  rw [h.skeleton, hcode]

theorem declaredAfter_eq (path : String) (role : IdentityRole) (occurrences : List Span) :
    v.declaredAfter path role occurrences = w.declaredAfter path role occurrences := by
  unfold declaredAfter literalAfter?
  simp only [h.location, h.literal?_eq hcode]

theorem formAfter_eq_of_code (occurrences : List Span) :
    v.formAfter occurrences = w.formAfter occurrences :=
  formAfter_eq fun o _ => congrArg Option.isSome (h.literal?_eq hcode o.stop)

theorem registrations_eq (path : String) (calls : List Span) :
    v.registrations path calls = w.registrations path calls := by
  unfold registrations
  rw [h.declaredAfter_eq hcode, h.formAfter_eq_of_code hcode]

theorem modulePlace?_eq (name : String) : v.modulePlace? name = w.modulePlace? name := by
  unfold modulePlace? modulePlaces
  simp only [h.find_eq, h.literal?_eq hcode]

theorem stubDeclarations_eq (settings : RuleSettings) (path : String) :
    stubDeclarations settings path v = stubDeclarations settings path w := by
  unfold stubDeclarations
  simp only [h.find_eq, h.presence_eq, h.registrations_eq hcode, h.modulePlace?_eq hcode]

theorem deviceDeclarations_eq (path : String) :
    deviceDeclarations path v = deviceDeclarations path w := by
  unfold deviceDeclarations
  simp only [h.find_eq, h.declaredAfter_eq hcode, h.formAfter_eq_of_code hcode, h.presence_eq,
    h.registrations_eq hcode, h.staticRegistration?_eq]

end Code

end SameLayout

end Views

end TwinNode
