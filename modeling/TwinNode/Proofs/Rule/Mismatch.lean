import TwinNode.Proofs.Diagnostic.StableSort
import TwinNode.Proofs.Rule.Identity

namespace TwinNode

def Within (part text : String) : Prop := part.toList <:+: text.toList

namespace Within

theorem refl (text : String) : Within text text := List.infix_rfl

variable {part text : String} (h : Within part text)
include h

theorem before (more : String) : Within part (text ++ more) := by
  unfold Within
  rw [String.toList_append]
  exact h.trans (List.prefix_append _ _).isInfix

theorem after (front : String) : Within part (front ++ text) := by
  unfold Within
  rw [String.toList_append]
  exact h.trans (List.suffix_append _ _).isInfix

/-- What occurs in one of several texts occurs in all of them put together. -/
theorem intercalate {texts : List String} (ht : text ∈ texts) (separator : String) :
    Within part (String.intercalate separator texts) := by
  have hin : text.toList ∈ List.intersperse separator.toList (texts.map String.toList) := by
    induction texts with
    | nil => cases ht
    | cons first rest ih =>
      rw [List.map_cons]
      cases rest with
      | nil =>
        obtain rfl := List.mem_singleton.1 ht
        exact List.mem_singleton_self _
      | cons second rest =>
        rw [List.map_cons, List.intersperse_cons_cons]
        rcases List.mem_cons.1 ht with rfl | ht
        · exact List.mem_cons_self
        · exact List.mem_cons_of_mem _ (List.mem_cons_of_mem _ (ih ht))
  unfold Within
  rw [String.toList_intercalate]
  exact h.trans (List.infix_of_mem_flatten hin)

end Within

namespace Rule

theorem reportedBefore_iff {a b : Identity} :
    reportedBefore a b = true ↔ a.path < b.path ∨ a.path = b.path ∧ a.location ≤ b.location := by
  unfold reportedBefore
  simp

theorem reportedBefore_trans (a b c : Identity) (hab : reportedBefore a b = true)
    (hbc : reportedBefore b c = true) :
    reportedBefore a c = true := by
  rw [reportedBefore_iff] at *
  rcases hab with hab | ⟨hab, hlab⟩ <;> rcases hbc with hbc | ⟨hbc, hlbc⟩
  · exact .inl (String.lt_trans hab hbc)
  · exact .inl (hbc ▸ hab)
  · exact .inl (hab ▸ hbc)
  · exact .inr ⟨hab.trans hbc, String.le_trans hlab hlbc⟩

theorem reportedBefore_total (a b : Identity) :
    (reportedBefore a b || reportedBefore b a) = true := by
  rw [Bool.or_eq_true, reportedBefore_iff, reportedBefore_iff]
  by_cases hab : a.path < b.path
  · exact .inl (.inl hab)
  by_cases hba : b.path < a.path
  · exact .inr (.inl hba)
  have hpath : a.path = b.path := String.le_antisymm (String.not_lt.1 hba) (String.not_lt.1 hab)
  rcases String.le_total a.location b.location with hl | hl
  · exact .inl (.inr ⟨hpath, hl⟩)
  · exact .inr (.inr ⟨hpath.symm, hl⟩)

theorem path_le_of_reportedBefore {a b : Identity} (h : reportedBefore a b = true) :
    a.path ≤ b.path := by
  rcases reportedBefore_iff.1 h with h | ⟨h, _⟩
  · exact String.not_lt.1 fun hba => String.lt_irrefl _ (String.lt_trans h hba)
  · exact h ▸ String.le_refl _

theorem path_le_of_head? {identities : List Identity} {first : Identity}
    (h : (identities.mergeSort reportedBefore).head? = some first) :
    first ∈ identities ∧ ∀ i ∈ identities, first.path ≤ i.path := by
  obtain ⟨hmem, hleast⟩ := head?_mergeSort_le reportedBefore_trans reportedBefore_total h
  exact ⟨hmem, fun i hi => path_le_of_reportedBefore (hleast i hi)⟩

/-- What a finding about a mismatch says: it stands at a declaration of the least path among those
that differ from the reference, and names the file of the reference and of each one that differs. -/
structure TellsMismatch (f : Finding) (identities : List Identity)
    (reference : Identity) : Prop where
  standsAt : ∃ i ∈ identities, i.value ≠ reference.value ∧ f.path = i.path ∧
    f.location = some i.location
  least : ∀ i ∈ identities, i.value ≠ reference.value → f.path ≤ i.path
  namesReference : Within reference.path f.message
  namesOthers : ∀ i ∈ identities, i.value ≠ reference.value → Within i.path f.message
  kind : f.kind = none
  severity : f.severity = none

theorem within_describe (i : Identity) : Within i.path i.describe :=
  ((((Within.refl i.path).before " (").before _).before _)

theorem tellsMismatch_of_mismatch? {context : CheckContext} {u : NodeUnit} {f : Finding}
    (h : mismatch? context u = some f) {reference : Identity}
    (hr : reference? context.facts u (representatives context u) = some reference) :
    TellsMismatch f (representatives context u) reference := by
  unfold mismatch? at h
  dsimp only at h
  rw [hr, Option.bind_some] at h
  obtain ⟨first, hfirst, rfl⟩ := Option.map_eq_some_iff.1 h
  obtain ⟨hin, hleast⟩ := path_le_of_head? hfirst
  have differs : ∀ i, i ∈ (representatives context u).filter (·.value ≠ reference.value) ↔
      i ∈ representatives context u ∧ i.value ≠ reference.value := fun i => by simp
  obtain ⟨hmem, hne⟩ := (differs first).1 hin
  refine ⟨⟨first, hmem, hne, rfl, rfl⟩, fun i hi hd => hleast i ((differs i).2 ⟨hi, hd⟩), ?_,
    fun i hi hd => ?_, rfl, rfl⟩
  · exact (((within_describe reference).after _).before _).before _
  · have hquoted : Within i.path ("\"" ++ i.value ++ "\" in " ++ i.describe) :=
      (within_describe i).after _
    refine Within.after (hquoted.intercalate (List.mem_map.2 ⟨i, ?_, rfl⟩) ", ") _
    exact List.mem_mergeSort.2 ((differs i).2 ⟨hi, hd⟩)

end Rule

end TwinNode
