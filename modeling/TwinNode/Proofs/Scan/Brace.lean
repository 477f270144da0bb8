import TwinNode.Scan.Views

/-! The brace that closes another one is found by a running count. It is the first place
where the count is back at zero, so the text from the one brace to the other opens as many
braces as it closes, and every beginning of it opens more. -/

namespace TwinNode

/-- How a character changes the number of open braces. -/
def braceStep (c : Char) : Int := if c = '\x7b' then 1 else if c = '\x7d' then -1 else 0

/-- How a text changes the number of open braces. -/
def nesting (text : List Char) : Int := text.count '\x7b' - text.count '\x7d'

@[simp] theorem nesting_nil : nesting [] = 0 := rfl

@[simp] theorem nesting_cons (c : Char) (text : List Char) :
    nesting (c :: text) = braceStep c + nesting text := by
  unfold nesting braceStep
  by_cases hopen : c = '\x7b'
  · subst hopen
    simp
    omega
  · by_cases hclose : c = '\x7d'
    · subst hclose
      simp
      omega
    · simp [hopen, hclose]

theorem neg_one_le_braceStep (c : Char) : -1 ≤ braceStep c := by
  unfold braceStep
  split
  · omega
  · split <;> omega

/-- Of `depth` open braces the last one is closed at the end of the text, and not before. -/
structure Falls (depth : Int) (text : List Char) : Prop where
  total : depth + nesting text = 0
  before : ∀ left right, text = left ++ right → right ≠ [] → 0 < depth + nesting left

theorem falls_zero_iff {text : List Char} : Falls 0 text ↔ text = [] := by
  constructor
  · intro h
    cases text with
    | nil => rfl
    | cons c text =>
      have := h.before [] (c :: text) rfl (List.cons_ne_nil c text)
      simp at this
  · rintro rfl
    exact ⟨rfl, fun left right hsplit hne => absurd (List.append_eq_nil_iff.1 hsplit.symm).2 hne⟩

theorem not_falls_nil {depth : Int} (hd : 0 < depth) : ¬Falls depth [] := by
  intro h
  have := h.total
  simp at this
  omega

theorem falls_cons_iff {depth : Int} (hd : 0 < depth) {c : Char} {text : List Char} :
    Falls depth (c :: text) ↔ Falls (depth + braceStep c) text := by
  constructor
  · intro h
    refine ⟨?_, fun left right hsplit hne => ?_⟩
    · have := h.total
      simp at this
      omega
    · have := h.before (c :: left) right (by rw [hsplit]; rfl) hne
      simp at this
      omega
  · intro h
    refine ⟨?_, fun left right hsplit hne => ?_⟩
    · have := h.total
      simp
      omega
    · cases left with
      | nil => simpa using hd
      | cons d left =>
        obtain ⟨rfl, htext⟩ := List.cons.inj hsplit
        have := h.before left right htext hne
        simp
        omega

theorem closingBrace?_cons {depth : Int} (hd : 0 < depth) (offset : Nat)
    (c : Char) (cs : List Char) :
    closingBrace? depth offset (c :: cs) =
      if depth + braceStep c = 0 then some offset
      else closingBrace? (depth + braceStep c) (offset + 1) cs := by
  unfold braceStep
  rw [closingBrace?]
  by_cases hopen : c = '\x7b'
  · rw [if_pos hopen, if_pos hopen, if_neg (by omega)]
  · rw [if_neg hopen, if_neg hopen]
    by_cases hclose : c = '\x7d'
    · rw [if_pos hclose, if_pos hclose]
      by_cases hone : depth = 1
      · rw [if_pos hone, if_pos (by omega)]
      · rw [if_neg hone, if_neg (by omega)]
        rfl
    · rw [if_neg hclose, if_neg hclose, if_neg (by omega), Int.add_zero]

/-- The count finds the place where the last open brace is closed. -/
theorem closingBrace?_eq_some_iff {depth : Int} (hd : 0 < depth)
    {offset close : Nat} {cs : List Char} :
    closingBrace? depth offset cs = some close ↔
      ∃ text, text <+: cs ∧ Falls depth text ∧ offset + text.length = close + 1 := by
  induction cs generalizing depth offset with
  | nil =>
    simp only [closingBrace?, reduceCtorEq, List.prefix_nil, false_iff]
    rintro ⟨text, rfl, hfalls, _⟩
    exact not_falls_nil hd hfalls
  | cons c cs ih =>
    have hstep := neg_one_le_braceStep c
    -- The first character either closes the last open brace or leaves a count that is still
    -- positive.
    rw [closingBrace?_cons hd]
    split
    · next hzero =>
      rw [Option.some.injEq]
      constructor
      · rintro rfl
        refine ⟨[c], by simp, ?_, rfl⟩
        rw [falls_cons_iff hd, hzero, falls_zero_iff]
      · rintro ⟨text, htext, hfalls, hlength⟩
        cases text with
        | nil => exact absurd hfalls (not_falls_nil hd)
        | cons d text =>
          obtain ⟨rfl, -⟩ := List.cons_prefix_cons.1 htext
          rw [falls_cons_iff hd, hzero, falls_zero_iff] at hfalls
          subst hfalls
          simpa using hlength
    · next hne =>
      rw [ih (by omega)]
      constructor
      · rintro ⟨text, htext, hfalls, hlength⟩
        refine ⟨c :: text, List.cons_prefix_cons.2 ⟨rfl, htext⟩, (falls_cons_iff hd).2 hfalls, ?_⟩
        simp
        omega
      · rintro ⟨text, htext, hfalls, hlength⟩
        cases text with
        | nil => exact absurd hfalls (not_falls_nil hd)
        | cons d text =>
          obtain ⟨rfl, hrest⟩ := List.cons_prefix_cons.1 htext
          refine ⟨text, hrest, (falls_cons_iff hd).1 hfalls, ?_⟩
          simp at hlength
          omega

/-- A text that opens as many braces as it closes, while every beginning of it but the empty one
opens more. -/
structure Balanced (text : List Char) : Prop where
  total : text.count '\x7b' = text.count '\x7d'
  before : ∀ left right, text = left ++ right → left ≠ [] → right ≠ [] →
    left.count '\x7d' < left.count '\x7b'

/-- The brace at `close` closes the one at `start`. -/
structure Closes (text : List Char) (start close : Nat) : Prop where
  start_le : start ≤ close
  close_lt : close < text.length
  balanced : Balanced (Span.slice ⟨start, close + 1⟩ text)

theorem balanced_iff_falls {text : List Char} : Balanced ('\x7b' :: text) ↔ Falls 1 text := by
  constructor
  · intro h
    refine ⟨?_, fun left right hsplit hne => ?_⟩
    · have := h.total
      unfold nesting
      simp at this
      omega
    · have := h.before ('\x7b' :: left) right (by rw [hsplit]; rfl) (List.cons_ne_nil _ _) hne
      unfold nesting
      simp at this
      omega
  · intro h
    refine ⟨?_, fun left right hsplit hleft hne => ?_⟩
    · have := h.total
      unfold nesting at this
      simp
      omega
    · cases left with
      | nil => exact absurd rfl hleft
      | cons d left =>
        obtain ⟨rfl, htext⟩ := List.cons.inj hsplit
        have := h.before left right htext hne
        unfold nesting at this
        simp
        omega

theorem slice_from_brace {skeleton : List Char} {start close : Nat}
    (hopen : skeleton[start]? = some '\x7b') (hle : start ≤ close) :
    Span.slice ⟨start, close + 1⟩ skeleton = '\x7b' ::
      (skeleton.drop (start + 1)).take (close - start) := by
  obtain ⟨hlt, hbrace⟩ := List.getElem?_eq_some_iff.1 hopen
  have hlength : close + 1 - start = close - start + 1 := by omega
  unfold Span.slice
  rw [List.drop_take, List.drop_eq_getElem_cons hlt, hbrace, hlength, List.take_succ_cons]

/-- The brace that is found for an opening one is the one that closes it. -/
theorem matchingBrace?_eq_some_iff {skeleton : List Char} {start close : Nat}
    (hopen : skeleton[start]? = some '\x7b') :
    matchingBrace? skeleton start = some close ↔ Closes skeleton start close := by
  obtain ⟨hlt, hbrace⟩ := List.getElem?_eq_some_iff.1 hopen
  have hfirst : matchingBrace? skeleton start = closingBrace? 1 (start + 1)
      (skeleton.drop (start + 1)) := by
    unfold matchingBrace?
    rw [List.drop_eq_getElem_cons hlt, hbrace]
    rfl
  have hlength : (skeleton.drop (start + 1)).length = skeleton.length - (start + 1) :=
    List.length_drop
  rw [hfirst, closingBrace?_eq_some_iff Int.one_pos]
  constructor
  · rintro ⟨text, htext, hfalls, hclose⟩
    have hle := htext.length_le
    refine ⟨by omega, by omega, ?_⟩
    have hlength : close - start = text.length := by omega
    rw [slice_from_brace hopen (by omega), balanced_iff_falls, hlength,
      ← List.prefix_iff_eq_take.1 htext]
    exact hfalls
  · intro h
    have hle := h.start_le
    have hclose := h.close_lt
    refine ⟨(skeleton.drop (start + 1)).take (close - start), List.take_prefix _ _, ?_, ?_⟩
    · rw [← balanced_iff_falls, ← slice_from_brace hopen h.start_le]
      exact h.balanced
    · rw [List.length_take, hlength]
      omega

theorem closingBrace?_brace {depth : Int} {offset close : Nat} {cs : List Char}
    (h : closingBrace? depth offset cs = some close) :
    offset ≤ close ∧ cs[close - offset]? = some '\x7d' := by
  induction cs generalizing depth offset with
  | nil => cases h
  | cons c cs ih =>
    -- A count that goes on finds its brace one place further on.
    have later : ∀ {depth : Int}, closingBrace? depth (offset + 1) cs = some close →
        offset ≤ close ∧ (c :: cs)[close - offset]? = some '\x7d' := by
      intro depth h
      obtain ⟨hle, hbrace⟩ := ih h
      refine ⟨by omega, ?_⟩
      rw [show close - offset = close - (offset + 1) + 1 by omega, List.getElem?_cons_succ]
      exact hbrace
    rw [closingBrace?] at h
    split at h
    · exact later h
    · split at h
      · next hclose =>
        split at h
        · obtain rfl := Option.some.inj h
          simp [hclose]
        · exact later h
      · exact later h

theorem matchingBrace?_brace {skeleton : List Char} {start close : Nat}
    (h : matchingBrace? skeleton start = some close) :
    start ≤ close ∧ skeleton[close]? = some '\x7d' := by
  obtain ⟨hle, hbrace⟩ := closingBrace?_brace h
  rw [List.getElem?_drop, Nat.add_sub_cancel' hle] at hbrace
  exact ⟨hle, hbrace⟩

end TwinNode
