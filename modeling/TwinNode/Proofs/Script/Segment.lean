import TwinNode.Script.Segment

/-! A segment is known by the text after it: a literal that its delimiter does not close
ends the script or, unless it is a template, its line. From this one step lemma follow the
places of segments in a script and what the three views show there. -/

namespace TwinNode.Script

/-- A character that opens a literal. -/
def Delimits (c : Char) : Prop := isQuote c = true ∨ c = '/'

instance (c : Char) : Decidable (Delimits c) := inferInstanceAs (Decidable (_ ∨ _))

theorem isQuote_iff {c : Char} : isQuote c = true ↔ c = '\x22' ∨ c = '\x27' ∨ c = backtick := by
  simp [isQuote, quotes]

theorem Delimits.ne_blank {d : Char} (h : Delimits d) (c : Char) : d ≠ blank c := by
  intro he
  have hb : d = '\n' ∨ d = ' ' := by
    rw [he]
    unfold blank
    split <;> simp
  rcases h with h | rfl
  · rw [isQuote_iff] at h
    rcases hb with rfl | rfl <;> revert h <;> decide
  · revert hb
    decide

@[simp] theorem blank_eq_newline_iff {c : Char} : blank c = '\n' ↔ c = '\n' := by
  unfold blank
  split <;> simp_all

theorem isBlank_blank (c : Char) : Text.isBlank (blank c) = true := by
  unfold blank
  split <;> decide

theorem literalTail_open {delimiter : Char} {inClass : Bool} {cs : List Char}
    (h : (literalTail delimiter inClass cs).closed = false) :
    (literalTail delimiter inClass cs).rest = [] ∨
      delimiter ≠ backtick ∧ ∃ rest, (literalTail delimiter inClass cs).rest = '\n' :: rest := by
  fun_induction literalTail delimiter inClass cs with
  | case1 | case2 => exact .inl rfl
  | case3 inClass c cs ih | case6 inClass c cs _ _ _ _ ih => exact ih (by simpa using h)
  | case4 inClass c cs _ _ hc => exact .inr ⟨hc.2, cs, by rw [hc.1]⟩
  | case5 => simp at h

theorem literalTail_cons {delimiter c : Char} (hc : c ≠ '\\') (inClass : Bool) (cs : List Char) :
    literalTail delimiter inClass (c :: cs) =
      if c = '\n' ∧ delimiter ≠ backtick then ⟨[], false, c :: cs⟩
      else if c = delimiter ∧ ¬(delimiter = '/' ∧ inClass) then ⟨[c], true, cs⟩
      else (literalTail delimiter
        (if c = '[' then true else if c = ']' then false else inClass) cs).push c := by
  rw [literalTail]
  · exact fun hescape => absurd hescape hc
  · exact fun _ _ hescape => absurd hescape hc

/-- Text on one line that does not end a literal with the given delimiter: it holds neither the
delimiter nor escapes. -/
def Harmless (quote : Char) (inside : List Char) : Prop :=
  ∀ c ∈ inside, c ≠ quote ∧ c ≠ '\\' ∧ c ≠ '\n'

theorem Harmless.line {quote : Char} {inside : List Char} (h : Harmless quote inside) :
    '\n' ∉ inside :=
  fun hn => (h _ hn).2.2 rfl

instance (quote : Char) (inside : List Char) : Decidable (Harmless quote inside) :=
  List.decidableBAll (fun c => c ≠ quote ∧ c ≠ '\\' ∧ c ≠ '\n') inside

theorem ne_slash_of_isQuote {quote : Char} (h : isQuote quote = true) : quote ≠ '/' := by
  rintro rfl
  revert h
  decide

theorem ne_newline_of_isQuote {quote : Char} (h : isQuote quote = true) : quote ≠ '\n' := by
  rintro rfl
  revert h
  decide

theorem ne_escape_of_isQuote {quote : Char} (h : isQuote quote = true) : quote ≠ '\\' := by
  rintro rfl
  revert h
  decide

theorem literalTail_harmless {quote : Char} {inside : List Char} (hq : isQuote quote = true)
    (h : Harmless quote inside) (rest : List Char) (inClass : Bool) :
    literalTail quote inClass (inside ++ quote :: rest) = ⟨inside ++ [quote], true, rest⟩ := by
  induction inside generalizing inClass with
  | nil =>
    rw [List.nil_append, literalTail_cons (ne_escape_of_isQuote hq),
      if_neg fun hc => ne_newline_of_isQuote hq hc.1,
        if_pos ⟨rfl, fun hc => ne_slash_of_isQuote hq hc.1⟩]
    rfl
  | cons c inside ih =>
    obtain ⟨⟨hquote, hescape, hline⟩, hrest⟩ := List.forall_mem_cons.1 h
    rw [List.cons_append, literalTail_cons hescape, if_neg fun hc => hline hc.1,
      if_neg fun hc => hquote hc.1, ih hrest]
    rfl

theorem next_plain {c : Char} (h : ¬Delimits c) (before cs : List Char) :
    next before c cs = (.plain c, cs) := by
  have hslash : c ≠ '/' := fun hc => h (.inr hc)
  have hquote : isQuote c = false := Bool.eq_false_iff.2 fun hq => h (.inl hq)
  simp [next, hslash, hquote]

/-- A segment and the text after it, as cutting leaves them. -/
inductive Cut : Segment → List Char → Prop
  | plain {c : Char} {rest : List Char} (noQuote : isQuote c = false) : Cut (.plain c) rest
  | comment {text rest : List Char} : Cut (.comment text) rest
  | closed {delimiter : Char} {inside rest : List Char} (delimits : Delimits delimiter) :
      Cut (.literal delimiter (inside ++ [delimiter]) true) rest
  /-- A literal that its line does not close. -/
  | broken {delimiter : Char} {inside rest : List Char} (delimits : Delimits delimiter)
      (noTemplate : delimiter ≠ backtick) : Cut (.literal delimiter inside false) ('\n' :: rest)
  /-- A literal that nothing closes. -/
  | endless {delimiter : Char} {inside : List Char} (delimits : Delimits delimiter) :
      Cut (.literal delimiter inside false) []

theorem literalTail_cut {delimiter : Char} (h : Delimits delimiter)
    (inClass : Bool) (cs : List Char) :
    Cut (.literal delimiter (literalTail delimiter inClass cs).text
      (literalTail delimiter inClass cs).closed) (literalTail delimiter inClass cs).rest := by
  cases hc : (literalTail delimiter inClass cs).closed with
  | true =>
    rw [literalTail_closed hc]
    exact .closed h
  | false =>
    rcases literalTail_open hc with hr | ⟨hne, rest, hr⟩
    · exact hr ▸ .endless h
    · exact hr ▸ .broken h hne

/-- One step cuts off a comment, a literal or a character that opens no literal. -/
theorem next_cut (before : List Char) (c : Char) (cs : List Char) :
    Cut (next before c cs).1 (next before c cs).2 := by
  unfold next
  split
  · exact .comment
  · split
    · exact .comment
    · split
      · next h =>
        refine literalTail_cut ?_ false cs
        rw [Bool.or_eq_true, Bool.and_eq_true, beq_iff_eq] at h
        exact h.imp_right And.left
      · next h =>
        refine .plain ?_
        rw [Bool.or_eq_true, not_or, Bool.not_eq_true] at h
        exact h.1

/-- A literal that a step cuts off is the one that is read from its opening delimiter. -/
theorem next_literal {before cs tail : List Char} {c delimiter : Char} {closed : Bool}
    (h : (next before c cs).1 = .literal delimiter tail closed) :
    delimiter = c ∧ literalTail delimiter false cs = ⟨tail, closed, (next before c cs).2⟩ := by
  unfold next at h ⊢
  split at h
  · cases h
  · split at h
    · cases h
    · split at h
      · next h1 h2 h3 =>
        rw [if_neg h1, if_neg h2, if_pos h3]
        cases h
        exact ⟨rfl, rfl⟩
      · cases h

namespace Cut

theorem length_skeleton {s : Segment} {rest : List Char} (h : Cut s rest) :
    s.skeleton.length = s.source.length := by
  cases h <;> simp [Segment.skeleton, Segment.source]

end Cut

/-- A segment of a script, between the segments before and after it. -/
theorem segments_split {before text : List Char} {left right : List Segment} {s : Segment}
    (h : segments before text = left ++ s :: right) :
    ∃ seen rest, text = left.flatMap Segment.source ++ (s.source ++ rest) ∧ Cut s rest ∧
      right = segments seen rest ∧
      (∀ delimiter tail closed, s = .literal delimiter tail closed →
        literalTail delimiter false (tail ++ rest) = ⟨tail, closed, rest⟩) := by
  -- On the segments before `s`, with the skeleton on their left left open.
  induction left generalizing before text with
  | nil =>
    cases text with
    | nil => simp [segments] at h
    | cons c cs =>
      rw [segments] at h
      obtain ⟨rfl, hr⟩ := List.cons.inj h
      have hs := next_source before c cs
      refine ⟨_, (next before c cs).2, ?_, next_cut before c cs, hr.symm, ?_⟩
      · exact hs.symm
      · intro delimiter tail closed hl
        obtain ⟨rfl, ht⟩ := next_literal hl
        rw [hl] at hs
        have hcs : tail ++ (next before delimiter cs).2 = cs := (List.cons.inj hs).2
        rw [hcs]
        exact ht
  | cons first left ih =>
    cases text with
    | nil => simp [segments] at h
    | cons c cs =>
      rw [segments] at h
      obtain ⟨rfl, hr⟩ := List.cons.inj h
      obtain ⟨seen, rest, htext, hrest⟩ := ih hr
      refine ⟨seen, rest, ?_, hrest⟩
      rw [List.flatMap_cons, List.append_assoc, ← htext]
      exact (next_source before c cs).symm

theorem length_skeleton_of_mem {before text : List Char} {s : Segment}
    (h : s ∈ segments before text) :
    s.skeleton.length = s.source.length := by
  obtain ⟨left, right, hsplit⟩ := List.append_of_mem h
  obtain ⟨_, _, _, hcut, _⟩ := segments_split hsplit
  exact hcut.length_skeleton

theorem length_flatMap_skeleton {left : List Segment}
    (h : ∀ s ∈ left, s.skeleton.length = s.source.length) :
    (left.flatMap Segment.skeleton).length = (left.flatMap Segment.source).length := by
  induction left with
  | nil => rfl
  | cons s left ih =>
    have hs := h s (by simp)
    have hl := ih fun t ht => h t (by simp [ht])
    simp [hs, hl]

theorem length_flatMap_code (left : List Segment) :
    (left.flatMap Segment.code).length = (left.flatMap Segment.source).length := by
  induction left with
  | nil => rfl
  | cons s left ih => simp [ih]

/-- A segment of a script that begins at an offset. -/
def StandsAt (text : List Char) (offset : Nat) (s : Segment) : Prop :=
  ∃ left right, segments [] text = left ++ s :: right ∧
    (left.flatMap Segment.source).length = offset

theorem StandsAt.mem {text : List Char} {offset : Nat} {s : Segment} (h : StandsAt text offset s) :
    s ∈ segments [] text := by
  obtain ⟨left, right, hsplit, _⟩ := h
  rw [hsplit]
  exact List.mem_append_right _ List.mem_cons_self

/-- What the source and both views show from the beginning of a segment on. -/
theorem StandsAt.drop {text : List Char} {offset : Nat} {s : Segment} (h : StandsAt text offset s) :
    ∃ seen rest, text.drop offset = s.source ++ rest ∧ Cut s rest ∧
      (code text).drop offset = s.code ++ (segments seen rest).flatMap Segment.code ∧
      (skeleton text).drop offset = s.skeleton ++ (segments seen rest).flatMap Segment.skeleton ∧
      (∀ delimiter tail closed, s = .literal delimiter tail closed →
        literalTail delimiter false (tail ++ rest) = ⟨tail, closed, rest⟩) := by
  obtain ⟨left, right, hsplit, rfl⟩ := h
  obtain ⟨seen, rest, htext, hcut, rfl, hlit⟩ := segments_split hsplit
  have hleft : ∀ t ∈ left, t.skeleton.length = t.source.length := fun t ht =>
    length_skeleton_of_mem (hsplit ▸ List.mem_append_left _ ht)
  refine ⟨seen, rest, ?_, hcut, ?_, ?_, hlit⟩
  · rw [htext, List.drop_left]
  · rw [code, hsplit, List.flatMap_append, List.flatMap_cons, ← length_flatMap_code, List.drop_left]
  · rw [skeleton, hsplit, List.flatMap_append, List.flatMap_cons, ← length_flatMap_skeleton hleft,
      List.drop_left]

theorem exists_split_flatMap {left : List Segment} {k : Nat}
    (h : k < (left.flatMap Segment.source).length) :
    ∃ first s last, left = first ++ s :: last ∧ (first.flatMap Segment.source).length ≤ k ∧
      k < (first.flatMap Segment.source).length + s.source.length := by
  induction left generalizing k with
  | nil => simp at h
  | cons s left ih =>
    by_cases hk : k < s.source.length
    · exact ⟨[], s, left, rfl, by simp, by simpa using hk⟩
    · rw [List.flatMap_cons, List.length_append] at h
      obtain ⟨first, t, last, rfl, hle, hlt⟩ := ih (k := k - s.source.length) (by omega)
      refine ⟨s :: first, t, last, rfl, ?_, ?_⟩ <;>
        · rw [List.flatMap_cons, List.length_append]
          omega

/-- Every place of a script lies in a segment. -/
theorem exists_standsAt {text : List Char} {k : Nat} (h : k < text.length) :
    ∃ offset s, StandsAt text offset s ∧ offset ≤ k ∧ k < offset + s.source.length := by
  rw [← segments_source [] text] at h
  obtain ⟨left, s, right, hsplit, hle, hlt⟩ := exists_split_flatMap h
  exact ⟨_, s, ⟨left, right, hsplit, rfl⟩, hle, hlt⟩

end TwinNode.Script
