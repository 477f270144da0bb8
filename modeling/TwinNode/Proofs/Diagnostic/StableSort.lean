import Mathlib.Data.List.Basic
import Mathlib.Data.List.Pairwise

/-! A stable sort keeps items in order that are equal for it. So what it gives depends only
on the order within each class of such items, and sorting more items does not change the
order among the ones that were there. -/

namespace TwinNode

def tied (le : α → α → Bool) (a b : α) : Bool := le a b && le b a

section StableSort

variable {le : α → α → Bool} (trans : ∀ a b c, le a b = true → le b c = true → le a c = true)
  (total : ∀ a b, (le a b || le b a) = true)

include total in
theorem tied_self (a : α) : tied le a a = true := by
  have h := total a a
  rw [Bool.or_self] at h
  rw [tied, h, Bool.and_self]

include trans in
theorem le_of_tied {a b c : α} (hb : tied le a b = true) (hc : tied le a c = true) :
    le b c = true := by
  rw [tied, Bool.and_eq_true] at hb hc
  exact trans b a c hb.2 hc.1

include trans total

theorem filter_tied_mergeSort (a : α) (xs : List α) :
    (xs.mergeSort le).filter (tied le a) = xs.filter (tied le a) := by
  have hpairs : (xs.filter (tied le a)).Pairwise fun b c => le b c = true :=
    List.pairwise_of_forall_mem_list fun b hb c hc =>
      le_of_tied trans (List.mem_filter.1 hb).2 (List.mem_filter.1 hc).2
  have hsub := (List.sublist_mergeSort trans total hpairs List.filter_sublist).filter (tied le a)
  simp only [List.filter_filter, Bool.and_self] at hsub
  refine (hsub.eq_of_length ?_).symm
  exact ((List.mergeSort_perm xs le).filter (tied le a)).length_eq.symm

omit trans in
theorem mem_iff_of_filter_tied {xs ys : List α}
    (h : ∀ a, xs.filter (tied le a) = ys.filter (tied le a)) (a : α) :
    a ∈ xs ↔ a ∈ ys := by
  have hself := tied_self total a
  have hmem : a ∈ xs.filter (tied le a) ↔ a ∈ ys.filter (tied le a) := by rw [h a]
  simpa only [List.mem_filter, hself, and_true] using hmem

omit trans in
/-- Two sorted lists are equal if they have the same items of each class, in the same order. -/
theorem eq_of_filter_tied {xs ys : List α} (hx : xs.Pairwise fun a b => le a b = true)
    (hy : ys.Pairwise fun a b => le a b = true)
    (h : ∀ a, xs.filter (tied le a) = ys.filter (tied le a)) : xs = ys := by
  have mem := mem_iff_of_filter_tied total h
  induction xs generalizing ys with
  | nil => exact (List.eq_nil_iff_forall_not_mem.2 fun a ha => List.not_mem_nil ((mem a).2 ha)).symm
  | cons x xs ih =>
    cases ys with
    | nil => exact absurd ((mem x).1 List.mem_cons_self) List.not_mem_nil
    | cons y ys =>
      rw [List.pairwise_cons] at hx hy
      have hself := tied_self total x
      -- Both heads are least, so they are of one class, and each is the first of it in its list.
      have hxy : tied le x y = true := by
        have least : ∀ {a : α} {as : List α}, (∀ b ∈ as, le a b = true) →
            ∀ b ∈ a :: as, le a b = true := by
          intro a as hleast
          refine List.forall_mem_cons.2 ⟨?_, hleast⟩
          simpa using total a a
        have hle := least hx.1 y ((mem y).2 List.mem_cons_self)
        have hge := least hy.1 x ((mem x).1 List.mem_cons_self)
        rw [tied, hle, hge, Bool.and_self]
      obtain ⟨rfl, _⟩ : x = y ∧ xs.filter (tied le x) = ys.filter (tied le x) := by
        simpa only [List.filter_cons_of_pos hself, List.filter_cons_of_pos hxy, List.cons.injEq]
          using h x
      have hrest : ∀ a, xs.filter (tied le a) = ys.filter (tied le a) := fun a => by
        have ha := h a
        by_cases hax : tied le a x = true
        · rw [List.filter_cons_of_pos hax, List.filter_cons_of_pos hax] at ha
          exact (List.cons.inj ha).2
        · rwa [List.filter_cons_of_neg hax, List.filter_cons_of_neg hax] at ha
      rw [ih hx.2 hy.2 hrest (mem_iff_of_filter_tied total hrest)]

/-- Lists with the same items of each class, in the same order, are the same when they are
sorted. -/
theorem mergeSort_eq_of_filter_tied {xs ys : List α}
    (h : ∀ a, xs.filter (tied le a) = ys.filter (tied le a)) :
    xs.mergeSort le = ys.mergeSort le := by
  refine eq_of_filter_tied total (List.pairwise_mergeSort trans total xs)
    (List.pairwise_mergeSort trans total ys) fun a => ?_
  rw [filter_tied_mergeSort trans total, filter_tied_mergeSort trans total, h a]

/-- The first of the sorted items is one of them and comes before all of them. -/
theorem head?_mergeSort_le {xs : List α} {first : α} (h : (xs.mergeSort le).head? = some first) :
    first ∈ xs ∧ ∀ a ∈ xs, le first a = true := by
  have hsorted := List.pairwise_mergeSort trans total xs
  obtain ⟨rest, hs⟩ := List.head?_eq_some_iff.1 h
  have hmem : ∀ a, a ∈ xs ↔ a = first ∨ a ∈ rest := by
    intro a
    have hsort : a ∈ xs.mergeSort le ↔ a ∈ xs := List.mem_mergeSort
    rw [← hsort, hs, List.mem_cons]
  rw [hs, List.pairwise_cons] at hsorted
  refine ⟨(hmem first).2 (.inl rfl), fun a ha => ?_⟩
  rcases (hmem a).1 ha with rfl | ha
  · simpa using total a a
  · exact hsorted.1 a ha

theorem filter_mergeSort (keep : α → Bool) (xs : List α) :
    (xs.mergeSort le).filter keep = (xs.filter keep).mergeSort le := by
  refine eq_of_filter_tied total ((List.pairwise_mergeSort trans total xs).filter keep)
    (List.pairwise_mergeSort trans total (xs.filter keep)) fun a => ?_
  rw [filter_tied_mergeSort trans total, List.filter_filter, List.filter_filter]
  simp only [Bool.and_comm (tied le a _)]
  rw [← List.filter_filter, ← List.filter_filter, filter_tied_mergeSort trans total]

/-- Of more items that are sorted, those that were there come in the same order. -/
theorem mergeSort_sublist {xs ys : List α} (h : xs.Sublist ys) :
    (xs.mergeSort le).Sublist (ys.mergeSort le) := by
  induction h with
  | slnil => exact List.Sublist.refl _
  | @cons xs ys y _ ih =>
    obtain ⟨before, after, hmore, hys, _⟩ := List.mergeSort_cons trans total y ys
    rw [hmore]
    rw [hys] at ih
    exact ih.trans ((List.sublist_cons_self y after).append_left before)
  | @cons_cons xs ys a _ ih =>
    -- What stands before the common item is what is less than it, in both lists.
    have split : ∀ {zs before after : List α}, (a :: zs).mergeSort le = before ++ a :: after →
        (∀ b ∈ before, (!le a b) = true) → before = (before ++ after).filter (!le a ·) ∧
          after = (before ++ after).filter (le a ·) := by
      intro zs before after hsort hbefore
      have hsorted := List.pairwise_mergeSort trans total (a :: zs)
      rw [hsort, List.pairwise_append, List.pairwise_cons] at hsorted
      have hafter : ∀ b ∈ after, le a b = true := hsorted.2.1.1
      constructor
      · rw [List.filter_append, List.filter_eq_self.2 hbefore,
          List.filter_eq_nil_iff.2 fun b hb => by simp [hafter b hb], List.append_nil]
      · rw [List.filter_append, List.filter_eq_self.2 hafter,
          List.filter_eq_nil_iff.2 fun b hb => by
          simpa using hbefore b hb, List.nil_append]
    obtain ⟨before, after, hmore, hxs, hless⟩ := List.mergeSort_cons trans total a xs
    obtain ⟨before', after', hmore', hys, hless'⟩ := List.mergeSort_cons trans total a ys
    obtain ⟨hbefore, hafter⟩ := split hmore hless
    obtain ⟨hbefore', hafter'⟩ := split hmore' hless'
    rw [hxs, hys] at ih
    have hleft := ih.filter (!le a ·)
    have hright := ih.filter (le a ·)
    rw [← hbefore, ← hbefore'] at hleft
    rw [← hafter, ← hafter'] at hright
    rw [hmore, hmore']
    exact hleft.append (hright.cons_cons a)

end StableSort

end TwinNode
