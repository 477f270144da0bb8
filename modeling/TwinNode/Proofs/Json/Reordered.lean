import Mathlib.Data.List.Find
import TwinNode.Proofs.Alike
import TwinNode.Proofs.Json.DistinctKeys

/-! Values that are the same except for the order in which the members of their objects
stand, at any depth. What is looked up by its key is then the same, up to such an order, and
what is read off all members is the same, in another order. -/

namespace TwinNode.Json.Value

/-- Two values that are the same except for the order in which the members of their objects
stand. -/
inductive Reordered : Value → Value → Prop
  | null : Reordered .null .null
  | bool (b : Bool) : Reordered (.bool b) (.bool b)
  | int (n : Int) : Reordered (.int n) (.int n)
  | real (x : Real) : Reordered (.real x) (.real x)
  | str (s : String) : Reordered (.str s) (.str s)
  | list {items others : List Value} (h : List.Forall₂ Reordered items others) :
    Reordered (.list items) (.list others)
  | object {members moved others : List (String × Value)}
      (hkeys : members.map (·.1) = moved.map (·.1))
      (hvalues : List.Forall₂ Reordered (members.map (·.2)) (moved.map (·.2)))
      (hperm : moved.Perm others) :
      Reordered (.object members) (.object others)

/-- Members that are the same except for their order, and the order of the members inside them. -/
def MembersReordered (members others : List (String × Value)) : Prop :=
  ∃ moved, List.Forall₂ (fun m n => m.1 = n.1 ∧ Reordered m.2 n.2) members moved ∧ moved.Perm others

section Members

variable {members others : List (String × Value)} (h : MembersReordered members others)
include h

/-- What is read off each member, without regard to the order inside it, is the same in another
order. -/
theorem MembersReordered.map_perm {f g : String × Value → α}
    (hf : ∀ key v w, Reordered v w → f (key, v) = g (key, w)) :
    (members.map f).Perm (others.map g) := by
  obtain ⟨moved, hmoved, hperm⟩ := h
  have hsame : members.map f = moved.map g := by
    refine map_eq_of_forall₂ hmoved ?_
    rintro ⟨key, v⟩ _ ⟨_, w⟩ ⟨rfl, hvalue⟩
    exact hf key v w hvalue
  rw [hsame]
  exact hperm.map g

theorem MembersReordered.filterMap_perm {f g : String × Value → Option α}
    (hf : ∀ key v w, Reordered v w → f (key, v) = g (key, w)) :
    (members.filterMap f).Perm (others.filterMap g) := by
  have hperm := (h.map_perm hf).filterMap id
  rwa [List.filterMap_map, List.filterMap_map, Function.id_comp, Function.id_comp] at hperm

theorem MembersReordered.find? (hkeys : (others.map (·.1)).Nodup) (key : String) :
    Option.Rel Reordered ((members.find? (·.1 == key)).map (·.2))
      ((others.find? (·.1 == key)).map (·.2)) := by
  obtain ⟨moved, hmoved, hperm⟩ := h
  have hone : {m ∈ moved | (m.1 == key) = true}.Subsingleton := by
    rintro m ⟨hm, hkey⟩ n ⟨hn, hkey'⟩
    refine List.inj_on_of_nodup_map hkeys (hperm.mem_iff.1 hm) (hperm.mem_iff.1 hn) ?_
    rw [beq_iff_eq.1 hkey, beq_iff_eq.1 hkey']
  rw [← List.find?_eq_find?_of_perm hperm hone]
  have hfind :=
    rel_find? (p := fun m => m.1 == key) (q := fun m => m.1 == key)
      (fun m n hmn => by rw [hmn.1]) hmoved
  generalize members.find? _ = member, moved.find? _ = other at hfind
  cases hfind with
  | none => exact .none
  | some hmn => exact .some hmn.2

end Members

theorem reordered_object_iff {members others : List (String × Value)} :
    Reordered (.object members) (.object others) ↔ MembersReordered members others := by
  constructor
  · rintro (_ | _ | _ | _ | _ | _ | @⟨_, moved, _, hkeys, hvalues, hperm⟩)
    rw [← List.forall₂_eq_eq_eq, List.forall₂_map_left_iff, List.forall₂_map_right_iff] at hkeys
    rw [List.forall₂_map_left_iff, List.forall₂_map_right_iff] at hvalues
    exact ⟨moved, List.Forall₂.mp (fun _ _ hkey hvalue => ⟨hkey, hvalue⟩) hkeys hvalues, hperm⟩
  · rintro ⟨moved, hmoved, hperm⟩
    refine .object (map_eq_of_forall₂ hmoved fun _ _ _ hmn => hmn.1) ?_ hperm
    rw [List.forall₂_map_left_iff, List.forall₂_map_right_iff]
    exact hmoved.imp fun _ _ hmn => hmn.2

namespace Reordered

theorem refl : (v : Value) → Reordered v v
  | .null => .null
  | .bool b => .bool b
  | .int n => .int n
  | .real x => .real x
  | .str s => .str s
  | .list items => .list (List.forall₂_same.2 fun item hitem => refl item)
  | .object members => by
    refine .object rfl (List.forall₂_same.2 fun v hv => ?_) (.refl members)
    obtain ⟨m, hm, rfl⟩ := List.mem_map.1 hv
    exact refl m.2
termination_by v => sizeOf v
decreasing_by
  · have hsize := List.sizeOf_lt_of_mem hitem
    simp only [Value.list.sizeOf_spec]
    omega
  · have hsize := List.sizeOf_lt_of_mem hm
    obtain ⟨key, value⟩ := m
    simp only [Value.object.sizeOf_spec, Prod.mk.sizeOf_spec] at hsize ⊢
    omega

variable {v w : Value} (h : Reordered v w)
include h

theorem str? : v.str? = w.str? := by
  cases h <;> rfl

theorem members? : Option.Rel MembersReordered v.members? w.members? := by
  cases h with
  | object hkeys hvalues hperm => exact .some (reordered_object_iff.1 (.object hkeys hvalues hperm))
  | null | bool | int | real | str | list => exact .none

theorem isObject : v.isObject = w.isObject := isSome_eq_of_rel h.members?

/-- The member with a key is the same up to the order inside it. -/
theorem member? (hw : w.KeysDistinct) (key : String) :
    Option.Rel Reordered (v.member? key) (w.member? key) := by
  cases h with
  | object hkeys hvalues hperm =>
    exact (reordered_object_iff.1 (.object hkeys hvalues hperm)).find? (hw.members? rfl) key
  | null | bool | int | real | str | list => exact .none

end Reordered

theorem MembersReordered.refl (members : List (String × Value)) :
    MembersReordered members members :=
  reordered_object_iff.1 (.refl _)

end TwinNode.Json.Value
