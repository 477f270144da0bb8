import TwinNode.Proofs.Declaration.Facts
import TwinNode.Proofs.Package.Reordered

/-! The facts about a file do not depend on the order of the members in it: modules are
listed by their names, and of all else that is noted there is one. The type names that a
descriptor declares stand in the order of its entries, and no other JSON file declares any.
-/

namespace TwinNode

open TwinNode.Json (Value)
open TwinNode.Json.Value (MembersReordered)

theorem sortByName_eq {xs ys : List (String × α)} (hperm : xs.Perm ys)
    (hnames : (ys.map (·.1)).Nodup) :
    (xs.mergeSort fun a b => a.1 ≤ b.1) = ys.mergeSort fun a b => a.1 ≤ b.1 := by
  have htrans : ∀ a b c : String × α, decide (a.1 ≤ b.1) = true → decide (b.1 ≤ c.1) = true →
      decide (a.1 ≤ c.1) = true :=
    fun a b c => pathLE_trans a.1 b.1 c.1
  have htotal : ∀ a b : String × α, (decide (a.1 ≤ b.1) || decide (b.1 ≤ a.1)) = true :=
    fun a b => pathLE_total a.1 b.1
  have hsame : (xs.mergeSort fun a b => a.1 ≤ b.1).Perm (ys.mergeSort fun a b => a.1 ≤ b.1) :=
    (List.mergeSort_perm _ _).trans (hperm.trans (List.mergeSort_perm _ _).symm)
  refine hsame.eq_of_pairwise (fun a b ha hb hab hba => ?_)
    (List.pairwise_mergeSort htrans htotal xs) (List.pairwise_mergeSort htrans htotal ys)
  rw [List.mem_mergeSort] at ha hb
  exact List.inj_on_of_nodup_map hnames (hperm.mem_iff.1 ha) hb
    (String.le_antisymm (of_decide_eq_true hab) (of_decide_eq_true hba))

section Values

variable {v w : Value}

theorem shape_of_rel {value other : Option Value} (h : Option.Rel Value.Reordered value other) :
    Shape.of value = Shape.of other := by
  cases h with
  | none => rfl
  | some h => cases h <;> rfl

theorem modulePaths_reordered (h : v.Reordered w) : modulePaths v = modulePaths w := by
  cases h with
  | list h => exact filterMap_eq_of_forall₂ h fun _ _ _ hitem => hitem.str?
  | null | bool | int | real | str | object => rfl

theorem suffixedModules_reordered {modules others : List (String × Value)}
    (h : MembersReordered modules others) (hkeys : (others.map (·.1)).Nodup)
    (settings : RuleSettings) (path : String) :
    suffixedModules settings path modules = suffixedModules settings path others := by
  let written (m : String × Value) : String × List String := (m.1, modulePaths m.2)
  have hperm : (modules.map written).Perm (others.map written) :=
    h.map_perm fun key _ _ hvalue => congrArg (key, ·) (modulePaths_reordered hvalue)
  have hnames : ((others.map written).map (·.1)).Nodup := by rwa [List.map_map]
  have hlisted : ∀ members : List (String × Value), suffixedModules settings path members =
      ((members.map written).mergeSort fun a b => a.1 ≤ b.1).flatMap fun entry =>
        (entry.2.filter (hasScriptSuffix settings)).map fun written =>
          ⟨path, .manifestPathHasJsExtension, .text written, some ("modules." ++ entry.1)⟩ := by
    intro members
    rw [← List.map_mergeSort (r := fun a b : String × Value => decide (a.1 ≤ b.1))
      fun _ _ _ _ => rfl, List.flatMap_map]
    rfl
  rw [hlisted, hlisted, sortByName_eq hperm hnames]

theorem manifestDeclarations_reordered (h : v.Reordered w) (hw : w.KeysDistinct)
    (settings : RuleSettings) (path : String) :
    manifestDeclarations settings path v = manifestDeclarations settings path w := by
  have hmodules := h.member? hw "modules"
  have hlisted :
    suffixedModules settings path (((v.member? "modules").bind Value.members?).getD []) =
      suffixedModules settings path (((w.member? "modules").bind Value.members?).getD []) := by
    generalize v.member? "modules" = modules, hmember : w.member? "modules" = others at hmodules
    cases hmodules with
    | none => rfl
    | @some modules others hvalue =>
      have hmembers := hvalue.members?
      rw [Option.bind_some, Option.bind_some]
      generalize modules.members? = members, hothers : others.members? = members' at hmembers
      cases hmembers with
      | none => rfl
      | some hmembers =>
        exact suffixedModules_reordered hmembers ((hw.member? hmember).members? hothers)
          settings path
  have hmembers := isSome_eq_of_rel h.members?
  unfold manifestDeclarations
  dsimp only
  rw [shape_of_rel hmodules, shape_of_rel (h.member? hw "preload"), hlisted]
  cases hv : v.members? <;> cases hw' : w.members? <;> simp_all

/-- The shape of the node map does not depend on orders. -/
theorem nodeMapShape_reordered (h : v.Reordered w) (hw : w.KeysDistinct) :
    nodeMapShape v = nodeMapShape w := by
  have hmap := registrations?_reordered h hw
  have hnodes : ((v.member? "node-red").bind (·.member? "nodes")).isSome =
      ((w.member? "node-red").bind (·.member? "nodes")).isSome := by
    have hsection := h.member? hw "node-red"
    generalize v.member? "node-red" = outer, hmember : w.member? "node-red" = others at hsection
    cases hsection with
    | none => rfl
    | some hsection => exact isSome_eq_of_rel (hsection.member? (hw.member? hmember) "nodes")
  unfold nodeMapShape
  rw [hnodes]
  generalize registrations? v = nodes, registrations? w = others at hmap
  cases hmap <;> rfl

end Values

section Artifacts

variable {a b : Artifact} (h : a.Reordered b) (settings : RuleSettings)
include h

theorem Artifact.Reordered.declarations_eq (hkind : a.kind ≠ .descriptor) :
    a.declarations settings = b.declarations settings := by
  cases h with
  | same => rfl
  | @json kind _ _ _ _ _ _ h hw =>
    cases kind with
    | descriptor => exact absurd rfl hkind
    | manifest => exact manifestDeclarations_reordered h hw settings _
    | localeBundle | hostStub | deviceScript | editorMarkup => rfl

theorem Artifact.Reordered.facts_eq :
    (a.declarations settings).facts = (b.declarations settings).facts := by
  by_cases hkind : a.kind = .descriptor
  · cases h with
    | same => rfl
    | json _ h hw =>
      obtain rfl := hkind
      show [_] = [_]
      rw [nodeMapShape_reordered h hw]
  · rw [h.declarations_eq settings hkind]

theorem Artifact.Reordered.identities_perm :
    (a.declarations settings).identities.Perm (b.declarations settings).identities := by
  by_cases hkind : a.kind = .descriptor
  · cases h with
    | same => rfl
    | json _ h hw =>
      obtain rfl := hkind
      exact (rel_getD (registrations?_reordered h hw) (.refl [])).map_perm fun _ _ _ _ => rfl
  · rw [h.declarations_eq settings hkind]

end Artifacts

namespace Package.Reordered

variable {p other : Package} (h : p.Reordered other) (settings : RuleSettings)
include h

theorem facts_eq : (p.declarations settings).facts = (other.declarations settings).facts := by
  rw [p.declarations_facts, other.declarations_facts]
  exact flatMap_eq_of_forall₂ h.artifacts fun a _ b hab => hab.facts_eq settings

theorem identities_perm : (p.declarations settings).identities.Perm
    (other.declarations settings).identities := by
  rw [p.declarations_identities, other.declarations_identities]
  exact flatMap_perm_of_forall₂ h.artifacts fun a _ b hab => hab.identities_perm settings

theorem identitiesFor_perm (path : String) :
    ((p.declarations settings).identitiesFor path).Perm
      ((other.declarations settings).identitiesFor path) :=
  (h.identities_perm settings).filter _

/-- Beside the descriptor, the type names in a file are the same. -/
theorem identitiesFor_eq {path : String} (hpath : path ≠ descriptorName) :
    (p.declarations settings).identitiesFor path =
      (other.declarations settings).identitiesFor path := by
  have hfiltered :=
    forall₂_filter (p := (·.path == path)) (q := (·.path == path))
      (fun a b hab => by rw [hab.path_eq])
    h.artifacts
  rw [identitiesFor_filter, identitiesFor_filter]
  refine flatMap_eq_of_forall₂ hfiltered fun a ha b hab => ?_
  obtain ⟨ha, hsame⟩ := List.mem_filter.1 ha
  have hkind : a.kind ≠ .descriptor :=
    fun hkind => hpath ((beq_iff_eq.1 hsame).symm.trans ((h.descriptor_iff ha).1 hkind))
  rw [hab.declarations_eq settings hkind]

end Package.Reordered

end TwinNode
