import TwinNode.Rule.Descriptor

namespace TwinNode.Rule

open TwinNode.Json (Value)

variable {p q : Package} (hkinds : ∀ path, (p.get? path).map (·.kind) = (q.get? path).map (·.kind))
  {v w : Value} (hnamed : v.str?.map Path.normalizeReference = w.str?.map Path.normalizeReference)
include hkinds hnamed

theorem registrationFault?_congr (descriptor key : String) :
    registrationFault? p descriptor key v = registrationFault? q descriptor key w := by
  unfold registrationFault?
  generalize v.str? = written, w.str? = other at hnamed ⊢
  cases written with
  | none =>
    rw [Option.map_eq_none_iff.1 hnamed.symm]
  | some written =>
    obtain ⟨other, rfl, hother⟩ := Option.map_eq_some_iff.1 hnamed.symm
    dsimp only
    rw [hother]
    split
    · rfl
    · have hkind := hkinds (Path.normalizeReference written)
      generalize p.get? (Path.normalizeReference written) = target,
        q.get? (Path.normalizeReference written) = target'
        at hkind ⊢
      cases target with
      | none => rw [Option.map_eq_none_iff.1 hkind.symm]
      | some target =>
        obtain ⟨target', rfl, htarget⟩ := Option.map_eq_some_iff.1 hkind.symm
        simp only [htarget]

theorem registeredStub?_congr : registeredStub? p v = registeredStub? q w := by
  have hstub : ∀ path, (p.get? path).any (·.kind = .hostStub) =
      (q.get? path).any (·.kind = .hostStub) := by
    intro path
    have hkind := congrArg (Option.any fun kind => decide (kind = .hostStub)) (hkinds path)
    rwa [Option.any_map, Option.any_map] at hkind
  unfold registeredStub?
  generalize v.str? = written, w.str? = other at hnamed ⊢
  cases written with
  | none =>
    rw [Option.map_eq_none_iff.1 hnamed.symm, Option.bind_none, Option.bind_none]
  | some written =>
    obtain ⟨other, rfl, hother⟩ := Option.map_eq_some_iff.1 hnamed.symm
    rw [Option.bind_some, Option.bind_some]
    dsimp only
    rw [hother, hstub]

end TwinNode.Rule
