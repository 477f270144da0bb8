import Mathlib.Data.Prod.Lex
import Mathlib.Data.String.Basic
import TwinNode.Diagnostic.Order
import TwinNode.Proofs.Diagnostic.StableSort

namespace TwinNode

def RuleKey.rank (k : RuleKey) : String ×ₗ ℤ ×ₗ String :=
  toLex (k.letters, toLex (k.number, k.rest))

def LocationKey.rank (k : LocationKey) : ℕ ×ₗ ℕ ×ₗ ℕ ×ₗ String :=
  toLex (k.group, toLex (k.line, toLex (k.column, k.text)))

def DiagnosticKey.rank (k : DiagnosticKey) :
    String ×ₗ (String ×ₗ ℤ ×ₗ String) ×ₗ (ℕ ×ₗ ℕ ×ₗ ℕ ×ₗ String) ×ₗ String :=
  toLex (k.path, toLex (k.rule.rank, toLex (k.location.rank, k.message)))

theorem DiagnosticKey.cmp_eq (k l : DiagnosticKey) : k.cmp l = compare k.rank l.rank := rfl

theorem DiagnosticKey.isLE_cmp_iff {k l : DiagnosticKey} : (k.cmp l).isLE = true ↔
    k.rank ≤ l.rank := by
  rw [cmp_eq, Ordering.isLE_iff_ne_gt, ← not_lt]
  exact not_congr compare_gt_iff_gt

theorem RuleKey.rank_inj {k l : RuleKey} : k.rank = l.rank ↔ k = l := by
  constructor
  · intro h
    have hpair := toLex_inj.1 h
    obtain ⟨hletters, hrest⟩ := Prod.mk.inj hpair
    obtain ⟨hnumber, hrest⟩ := Prod.mk.inj (toLex_inj.1 hrest)
    cases k
    cases l
    simp_all
  · exact congrArg rank

theorem LocationKey.rank_inj {k l : LocationKey} : k.rank = l.rank ↔ k = l := by
  constructor
  · intro h
    obtain ⟨hgroup, hrest⟩ := Prod.mk.inj (toLex_inj.1 h)
    obtain ⟨hline, hrest⟩ := Prod.mk.inj (toLex_inj.1 hrest)
    obtain ⟨hcolumn, htext⟩ := Prod.mk.inj (toLex_inj.1 hrest)
    cases k
    cases l
    simp_all
  · exact congrArg rank

theorem DiagnosticKey.rank_inj {k l : DiagnosticKey} : k.rank = l.rank ↔ k = l := by
  constructor
  · intro h
    obtain ⟨hpath, hrest⟩ := Prod.mk.inj (toLex_inj.1 h)
    obtain ⟨hrule, hrest⟩ := Prod.mk.inj (toLex_inj.1 hrest)
    obtain ⟨hlocation, hmessage⟩ := Prod.mk.inj (toLex_inj.1 hrest)
    rw [RuleKey.rank_inj] at hrule
    rw [LocationKey.rank_inj] at hlocation
    cases k
    cases l
    simp_all
  · exact congrArg rank

theorem Diagnostic.key_eq_ok {d : Diagnostic} {rule : RuleKey} {place : LocationKey}
    (hr : RuleKey.ofId d.ruleId = .ok rule) (hl : LocationKey.ofLocation d.location = .ok place) :
    d.key = .ok ⟨d.path, rule, place, d.message⟩ := by
  unfold key
  rw [hr, hl]
  rfl

/-- The key of a diagnostic is made of its path, its rule, its place and its message. -/
theorem Diagnostic.parts_of_key {d : Diagnostic} {k : DiagnosticKey} (h : d.key = .ok k) :
    ∃ rule place, RuleKey.ofId d.ruleId = .ok rule ∧ LocationKey.ofLocation d.location = .ok place ∧
      k = ⟨d.path, rule, place, d.message⟩ := by
  unfold key at h
  cases hr : RuleKey.ofId d.ruleId with
  | error e =>
    rw [hr] at h
    cases h
  | ok rule =>
    cases hl : LocationKey.ofLocation d.location with
    | error e =>
      rw [hr, hl] at h
      cases h
    | ok place =>
      rw [hr, hl] at h
      exact ⟨rule, place, rfl, rfl, (Except.ok.inj h).symm⟩

theorem Diagnostic.rule_of_key {d : Diagnostic} {k : DiagnosticKey} (h : d.key = .ok k) :
    RuleKey.ofId d.ruleId = .ok k.rule := by
  obtain ⟨rule, _, hrule, _, rfl⟩ := parts_of_key h
  exact hrule

theorem mapM_keyed {key : α → Except ε κ} {k : α → κ} {xs : List α}
    (h : ∀ x ∈ xs, key x = .ok (k x)) :
    xs.mapM (fun x => (key x).map (·, x)) = .ok (xs.map fun x => (k x, x)) := by
  induction xs with
  | nil => rfl
  | cons x xs ih =>
    rw [List.mapM_cons, h x List.mem_cons_self, ih fun y hy => h y (List.mem_cons_of_mem x hy)]
    rfl

theorem sortByKey_eq {key : α → Except ε κ} {cmp : κ → κ → Ordering} {k : α → κ} {xs : List α}
    (h : ∀ x ∈ xs, key x = .ok (k x)) :
    sortByKey key cmp xs = .ok (xs.mergeSort fun a b => (cmp (k a) (k b)).isLE) := by
  have hsort : (xs.mergeSort fun a b => (cmp (k a) (k b)).isLE).map (fun x => (k x, x)) =
      (xs.map fun x => (k x, x)).mergeSort fun a b => (cmp a.1 b.1).isLE :=
    List.map_mergeSort fun _ _ _ _ => rfl
  have hitems : ∀ ys : List α, (ys.map fun x => (k x, x)).map (·.2) = ys := fun ys => by
    rw [List.map_map]
    exact List.map_id ys
  unfold sortByKey
  rw [mapM_keyed h]
  show Except.ok (((xs.map fun x => (k x, x)).mergeSort fun a b => (cmp a.1 b.1).isLE).map (·.2)) =
    _
  rw [← hsort, hitems]

/-- A change that keeps the keys can be made before sorting or after it. -/
theorem sortByKey_map {key : α → Except ε κ} {cmp : κ → κ → Ordering} {f : α → α}
    (h : ∀ x, key (f x) = key x) (xs : List α) :
    sortByKey key cmp (xs.map f) = (sortByKey key cmp xs).map (List.map f) := by
  have hkeyed : (xs.map f).mapM (fun x => (key x).map (·, x)) =
      (xs.mapM fun x => (key x).map (·, x)).map (List.map fun e => (e.1, f e.2)) := by
    induction xs with
    | nil => rfl
    | cons x xs ih =>
      rw [List.map_cons, List.mapM_cons, List.mapM_cons, ih, h x]
      cases key x with
      | error e => rfl
      | ok k => cases xs.mapM fun x => (key x).map (·, x) <;> rfl
  unfold sortByKey
  rw [hkeyed]
  cases xs.mapM fun x => (key x).map (·, x) with
  | error e => rfl
  | ok keyed =>
    have hsort : (keyed.mergeSort fun a b => (cmp a.1 b.1).isLE).map (fun e => (e.1, f e.2)) =
        (keyed.map fun e => (e.1, f e.2)).mergeSort fun a b => (cmp a.1 b.1).isLE :=
      List.map_mergeSort fun _ _ _ _ => rfl
    show Except.ok
      (((keyed.map fun e => (e.1, f e.2)).mergeSort fun a b => (cmp a.1 b.1).isLE).map (·.2)) =
      Except.ok (((keyed.mergeSort fun a b => (cmp a.1 b.1).isLE).map (·.2)).map f)
    rw [← hsort, List.map_map, List.map_map]
    rfl

theorem key_of_sortByKey {key : α → Except ε κ} {cmp : κ → κ → Ordering} {xs ys : List α}
    (h : sortByKey key cmp xs = .ok ys) : ∀ x ∈ xs, ∃ k, key x = .ok k := by
  induction xs generalizing ys with
  | nil => exact List.forall_mem_nil _
  | cons x xs ih =>
    unfold sortByKey at h ih
    rw [List.mapM_cons] at h
    cases hx : key x with
    | error e =>
      rw [hx] at h
      cases h
    | ok k =>
      rw [hx] at h
      cases hxs : xs.mapM fun x => (key x).map (·, x) with
      | error e =>
        rw [hxs] at h
        cases h
      | ok keyed =>
        rw [hxs] at ih
        exact List.forall_mem_cons.2 ⟨⟨k, hx⟩, ih rfl⟩

instance : Nonempty DiagnosticKey := ⟨⟨"", ⟨"", 0, ""⟩, ⟨0, 0, 0, ""⟩, ""⟩⟩

/-- Whether a diagnostic is not after another, by keys that were given to them. -/
def keyedLE (key : Diagnostic → DiagnosticKey) (a b : Diagnostic) : Bool :=
  ((key a).cmp (key b)).isLE

section Keys

variable {key : Diagnostic → DiagnosticKey} {ds : List Diagnostic}

theorem keyedLE_iff {a b : Diagnostic} : keyedLE key a b = true ↔ (key a).rank ≤ (key b).rank :=
  DiagnosticKey.isLE_cmp_iff

theorem keyedLE_trans (a b c : Diagnostic) (hab : keyedLE key a b = true)
    (hbc : keyedLE key b c = true) :
    keyedLE key a c = true := by
  rw [keyedLE_iff] at *
  exact hab.trans hbc

theorem keyedLE_total (a b : Diagnostic) : (keyedLE key a b || keyedLE key b a) = true := by
  rw [Bool.or_eq_true, keyedLE_iff, keyedLE_iff]
  exact le_total _ _

theorem rule_eq_of_tied {a b : Diagnostic} (h : tied (keyedLE key) a b = true) :
    (key a).rule = (key b).rule := by
  rw [tied, Bool.and_eq_true, keyedLE_iff, keyedLE_iff] at h
  have hrank := toLex_inj.1 (le_antisymm h.1 h.2)
  exact RuleKey.rank_inj.1 (Prod.mk.inj (toLex_inj.1 (Prod.mk.inj hrank).2)).1

variable (h : ∀ d ∈ ds, d.key = .ok (key d))
include h

theorem sortDiagnostics_eq : sortDiagnostics ds = .ok (ds.mergeSort (keyedLE key)) := sortByKey_eq h

end Keys

theorem sortDiagnostics_singleton {d : Diagnostic} {k : DiagnosticKey} (h : d.key = .ok k) :
    sortDiagnostics [d] = .ok [d] := by
  have hkey : ∀ e ∈ [d], e.key = .ok ((fun _ => k) e) := fun e he => List.mem_singleton.1 he ▸ h
  rw [sortDiagnostics_eq hkey, List.mergeSort_singleton]

theorem sortDiagnostics_nil : sortDiagnostics [] = .ok [] := by
  unfold sortDiagnostics sortByKey
  simp [List.mergeSort_nil, bind, Except.bind, pure, Except.pure]

/-- Diagnostics that are left out after sorting can be left out before. -/
theorem sortDiagnostics_filter {ds sorted : List Diagnostic} (h : sortDiagnostics ds = .ok sorted)
    (keep : Diagnostic → Bool) : sortDiagnostics (ds.filter keep) = .ok (sorted.filter keep) := by
  choose! key hkey using key_of_sortByKey h
  rw [sortDiagnostics_eq hkey] at h
  rw [sortDiagnostics_eq fun d hd => hkey d (List.mem_filter.1 hd).1, ← Except.ok.inj h,
    filter_mergeSort keyedLE_trans keyedLE_total]

end TwinNode
