import Mathlib.Data.List.Forall2
import Mathlib.Data.List.Perm.Basic
import TwinNode.Proofs.Declaration.Facts
import TwinNode.Proofs.Validation.Contribution

namespace TwinNode

def Package.reportedBy (p : Package) (settings : RuleSettings) (id path : String) :
    List Diagnostic :=
  (runRules Rule.catalog (p.context settings)).filter fun d => d.ruleId == id && d.path == path

def Rule.diagnosticsOf (id : String) (findings : List Finding) : List Diagnostic :=
  (find? id).toList.flatMap fun r => findings.map r.diagnostic

theorem Rule.diagnosticsOf_perm (id : String) {findings others : List Finding}
    (h : findings.Perm others) :
    (diagnosticsOf id findings).Perm (diagnosticsOf id others) :=
  List.Perm.flatMap_left _ fun _ _ => h.map _

/-- A diagnostic under the id of a rule says what a finding says: where it is and what is wrong
there. -/
structure Diagnostic.States (id : String) (d : Diagnostic) (f : Finding) : Prop where
  ruleId : d.ruleId = id
  path : d.path = f.path
  location : d.location = f.location
  message : d.message = f.message

/-- With a rule of the catalog, each finding is one diagnostic under the rule's id. -/
theorem Rule.diagnosticsOf_states {id : String} (hid : (find? id).map Rule.id = some id)
    (findings : List Finding) :
    List.Forall₂ (Diagnostic.States id) (diagnosticsOf id findings) findings := by
  obtain ⟨r, hr, hid⟩ := Option.map_eq_some_iff.1 hid
  unfold diagnosticsOf
  rw [hr, Option.toList_some, List.flatMap_singleton, List.forall₂_map_left_iff, List.forall₂_same]
  intro f _
  exact ⟨hid, rfl, rfl, rfl⟩

theorem Rule.run_total {r : Rule} {findings : CheckContext → List Finding}
    (h : r.check = total findings) (context : CheckContext) :
    r.run context = (findings context).map r.diagnostic := by
  unfold run
  rw [h]
  rfl

theorem reportedBy_eq (settings : RuleSettings) (p : Package) (id path : String) {r : Rule}
    (hr : Rule.find? id = some r) (hid : r.id = id) {findings : CheckContext → List Finding}
    (hcheck : r.check = Rule.total findings) : p.reportedBy settings id path =
      Rule.diagnosticsOf id ((findings (p.context settings)).filter (·.path == path)) := by
  have hmem : r ∈ Rule.catalog := List.mem_of_find?_eq_some hr
  have nodup_ids : (Rule.catalog.map Rule.id).Nodup := by decide
  have hown : (runRules Rule.catalog (p.context settings)).filter (·.ruleId == r.id) =
      r.run (p.context settings) :=
    filter_flatMap_of_nodup (fun _ _ hd => Rule.ruleId_of_mem_run hd) nodup_ids hmem
  have hsplit : p.reportedBy settings id path =
      ((runRules Rule.catalog (p.context settings)).filter (·.ruleId == id)).filter
        (·.path == path) := by
    unfold Package.reportedBy
    rw [List.filter_filter]
    exact List.filter_congr fun d _ => Bool.and_comm _ _
  unfold Rule.diagnosticsOf
  rw [hsplit, ← hid, hown, Rule.run_total hcheck, List.filter_map, hid, hr,
    Option.toList_some, List.flatMap_singleton]
  rfl

end TwinNode
