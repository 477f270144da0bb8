import TwinNode.Scan.Occurrence

namespace TwinNode

/-- The character before a place, seen from the second character of a text on. -/
theorem getLast?_cons_or (c : α) (cs : List α) (before : Option α) :
    (c :: cs).getLast?.or before = cs.getLast?.or (some c) := by
  rw [List.getLast?_cons]
  cases cs.getLast? <;> rfl

/-- A recogniser succeeds at the start of `o`, and `o` ends where it does, in a text that begins at
`offset` after the character `before`. -/
def Occurs (r : Recogniser) (before : Option Char) (offset : Nat)
    (cs : List Char) (o : Span) : Prop :=
  ∃ left right rest, cs = left ++ right ∧ right ≠ [] ∧ o.start = offset + left.length ∧
    r (left.getLast?.or before) right = some rest ∧ o.stop = o.start + (right.length - rest.length)

theorem Occurs.cons {r : Recogniser} {before : Option Char} {offset : Nat} {c : Char}
    {cs : List Char} {o : Span} (h : Occurs r (some c) (offset + 1) cs o) :
    Occurs r before offset (c :: cs) o := by
  obtain ⟨left, right, rest, rfl, hne, hstart, hr, hstop⟩ := h
  refine ⟨c :: left, right, rest, rfl, hne, ?_, ?_, hstop⟩
  · rw [hstart, List.length_cons]
    omega
  · rwa [getLast?_cons_or]

theorem occurs_of_mem {r : Recogniser} {before : Option Char} {offset skip : Nat}
    {cs : List Char} {o : Span} (h : o ∈ occurrencesFrom r before offset skip cs) :
    Occurs r before offset cs o := by
  induction cs generalizing before offset skip with
  | nil => simp [occurrencesFrom] at h
  | cons c cs ih =>
    cases skip with
    | succ skip => exact (ih h).cons
    | zero =>
      simp only [occurrencesFrom] at h
      cases hr : r before (c :: cs) with
      | none =>
        rw [hr] at h
        exact (ih h).cons
      | some rest =>
        rw [hr] at h
        rcases List.mem_cons.1 h with rfl | h
        · exact ⟨[], c :: cs, rest, rfl, List.cons_ne_nil c cs, rfl, by simpa using hr, rfl⟩
        · exact (ih h).cons

theorem start_of_mem {r : Recogniser} {before : Option Char} {offset skip : Nat}
    {cs : List Char} {o : Span} (h : o ∈ occurrencesFrom r before offset skip cs) :
    offset + skip ≤ o.start := by
  induction cs generalizing before offset skip with
  | nil => simp [occurrencesFrom] at h
  | cons c cs ih =>
    cases skip with
    | succ skip =>
      have := ih h
      omega
    | zero =>
      simp only [occurrencesFrom] at h
      cases hr : r before (c :: cs) with
      | none =>
        rw [hr] at h
        have := ih h
        omega
      | some rest =>
        rw [hr] at h
        rcases List.mem_cons.1 h with rfl | h
        · exact Nat.le_refl _
        · have := ih h
          omega

theorem occurrencesFrom_pairwise (r : Recogniser) (before : Option Char)
    (offset skip : Nat) (cs : List Char) :
    (occurrencesFrom r before offset skip cs).Pairwise fun o later => o.stop ≤ later.start := by
  induction cs generalizing before offset skip with
  | nil => simp [occurrencesFrom]
  | cons c cs ih =>
    cases skip with
    | succ skip => exact ih _ _ _
    | zero =>
      simp only [occurrencesFrom]
      split
      · exact ih _ _ _
      · next rest _ =>
        refine List.pairwise_cons.2 ⟨fun later hlater => ?_, ih _ _ _⟩
        have hstart := start_of_mem hlater
        dsimp only
        omega

/-- No occurrence begins in `text` when `after` comes next. -/
def Silent (r : Recogniser) (text after : List Char) : Prop :=
  ∀ left right, text = left ++ right → right ≠ [] → ∀ before, r before (right ++ after) = none

theorem Silent.nil (r : Recogniser) (after : List Char) : Silent r [] after := by
  intro left right h hne
  exact absurd (List.append_eq_nil_iff.1 h.symm).2 hne

theorem Silent.tail {r : Recogniser} {c : Char} {text after : List Char}
    (h : Silent r (c :: text) after) :
    Silent r text after := fun left right ht hne => h (c :: left) right (by rw [ht]; rfl) hne

theorem Silent.cons {r : Recogniser} {c : Char} {text after : List Char}
    (hc : ∀ before, r before (c :: text ++ after) = none) (h : Silent r text after) :
    Silent r (c :: text) after := by
  intro left right hsplit hne before
  cases left with
  | nil =>
    obtain rfl := hsplit
    exact hc before
  | cons d left => exact h left right (List.cons.inj hsplit).2 hne before

theorem Silent.append {r : Recogniser} {text more after : List Char}
    (h : Silent r text (more ++ after)) (h' : Silent r more after) :
    Silent r (text ++ more) after := by
  intro left right ht hne before
  rcases List.append_eq_append_iff.1 ht with ⟨mid, rfl, rfl⟩ | ⟨mid, rfl, rfl⟩
  · exact h' mid right rfl hne before
  · cases mid with
    | nil => exact h' [] more rfl (by simpa using hne) before
    | cons c mid =>
      rw [List.append_assoc]
      exact h left (c :: mid) rfl (List.cons_ne_nil c mid) before

theorem occurrencesFrom_silent {r : Recogniser} {text after : List Char} (h : Silent r text after)
    (before : Option Char) (offset : Nat) :
    occurrencesFrom r before offset 0 (text ++ after) =
      occurrencesFrom r (text.getLast?.or before) (offset + text.length) 0 after := by
  induction text generalizing before offset with
  | nil => simp
  | cons c text ih =>
    have hc := h [] (c :: text) rfl (List.cons_ne_nil c text) before
    rw [List.cons_append] at hc ⊢
    rw [occurrencesFrom, hc]
    dsimp only
    rw [ih h.tail, getLast?_cons_or, List.length_cons, Nat.add_right_comm]
    rfl

theorem occurrencesFrom_skip (r : Recogniser) (before : Option Char) (offset : Nat)
    (text after : List Char) :
    occurrencesFrom r before offset text.length (text ++ after) =
      occurrencesFrom r (text.getLast?.or before) (offset + text.length) 0 after := by
  induction text generalizing before offset with
  | nil => simp
  | cons c text ih =>
    rw [List.cons_append, List.length_cons, occurrencesFrom, ih,
      getLast?_cons_or, Nat.add_right_comm]
    rfl

theorem occurrencesFrom_hit {r : Recogniser} {before : Option Char}
    {text after : List Char} (hne : text ≠ []) (h : r before (text ++ after) = some after)
    (offset : Nat) :
    occurrencesFrom r before offset 0 (text ++ after) =
      ⟨offset, offset + text.length⟩ ::
        occurrencesFrom r (text.getLast?.or before) (offset + text.length) 0 after := by
  obtain ⟨c, text, rfl⟩ := List.exists_cons_of_ne_nil hne
  rw [List.cons_append] at h ⊢
  rw [occurrencesFrom, h]
  have hlen : (text ++ after).length - after.length = text.length := by simp
  have hspan : (text ++ after).length + 1 - after.length = text.length + 1 := by
    rw [List.length_append]
    omega
  dsimp only
  rw [hlen, hspan, occurrencesFrom_skip, List.length_cons, getLast?_cons_or, Nat.add_right_comm]
  rfl

theorem occurrencesFrom_eq_nil {r : Recogniser} {text : List Char} (h : Silent r text [])
    (before : Option Char) (offset : Nat) : occurrencesFrom r before offset 0 text = [] := by
  have hs := occurrencesFrom_silent h before offset
  rwa [List.append_nil] at hs

end TwinNode
