import TwinNode.Proofs.Script.Continued
import TwinNode.Proofs.Script.ReadBack

/-! When the inside of a string or template literal is written over by other text on one
line, without escapes and without the delimiter, the literal ends where it ended. All other
segments of the script stay as they are, whatever the new inside spells, so that the
skeleton is the same and the code differs in this inside only. -/

namespace TwinNode

/-- A text with other characters written over it from an offset on. -/
def overwrite (text : List Char) (offset : Nat) (other : List Char) : List Char :=
  text.take offset ++ (other ++ text.drop (offset + other.length))

theorem overwrite_append (left right : List Char) {old other : List Char}
    (h : other.length = old.length) :
    overwrite (left ++ (old ++ right)) left.length other = left ++ (other ++ right) := by
  unfold overwrite
  rw [List.take_left, h, ← List.append_assoc left old right, ← List.length_append, List.drop_left]

namespace Script

theorem map_blank_line {cs : List Char} (h : '\n' ∉ cs) :
    cs.map blank = List.replicate cs.length ' ' := by
  rw [List.eq_replicate_iff]
  refine ⟨List.length_map _, fun d hd => ?_⟩
  obtain ⟨c, hc, rfl⟩ := List.mem_map.1 hd
  unfold blank
  exact if_neg (by rintro rfl; exact h hc)

/-- Where a closed string or template literal is cut off, one with a harmless inside is. -/
theorem cutFirst_harmless {quote : Char} {other : List Char} (hq : isQuote quote = true)
    (h : Harmless quote other) (before rest : List Char) :
    CutFirst before (.literal quote (other ++ [quote]) true) rest := by
  refine ⟨quote, other ++ [quote], rfl, ?_⟩
  have hslash := ne_slash_of_isQuote hq
  have htail := literalTail_harmless hq h rest false
  rw [List.append_assoc, List.singleton_append, next, if_neg fun hc => hslash hc.1,
    if_neg fun hc => hslash hc.1, if_pos (by rw [hq]; rfl), htail]

/-- A closed literal is read if it is a template or on one line. -/
theorem literal?_of_closed {text inside : List Char} {offset : Nat} {quote : Char}
    (h : StandsAt text offset (.literal quote (inside ++ [quote]) true)) (hq : isQuote quote = true)
    (hline : quote = backtick ∨ '\n' ∉ inside) : (views text).literal? offset = some inside := by
  have htail : quote = backtick ∨ '\n' ∉ inside ++ [quote] := by
    refine hline.imp_right fun hin => ?_
    rw [List.mem_append, List.mem_singleton, not_or]
    exact ⟨hin, (ne_newline_of_isQuote hq).symm⟩
  rw [literal?_of_standsAt h hq, if_pos ⟨rfl, htail⟩, List.dropLast_concat]

/-- The inside of a closed literal on one line, and what is written over it. -/
structure Refilled (text : List Char) (offset : Nat) (quote : Char)
    (inside other : List Char) : Prop where
  standsAt : StandsAt text offset (.literal quote (inside ++ [quote]) true)
  quoted : isQuote quote = true
  line : '\n' ∉ inside
  harmless : Harmless quote other
  length : other.length = inside.length

namespace Refilled

variable {text : List Char} {offset : Nat} {quote : Char} {inside other : List Char}
  (h : Refilled text offset quote inside other)
include h

theorem exchanges : Exchanges (.literal quote (inside ++ [quote]) true)
    (.literal quote (other ++ [quote]) true) where
  head := rfl
  skeleton := by
    simp only [Segment.skeleton, if_true, List.dropLast_concat]
    rw [map_blank_line h.line, map_blank_line h.harmless.line, h.length]
  cutFirst before rest _ := cutFirst_harmless h.quoted h.harmless before rest

/-- The segments of the script, and those of the script with another inside of the literal. -/
theorem exists_segments : ∃ left right, (left.flatMap Segment.source).length = offset ∧
    segments [] text = left ++ .literal quote (inside ++ [quote]) true :: right ∧
    segments [] (overwrite text (offset + 1) other) =
      left ++ .literal quote (other ++ [quote]) true :: right := by
  obtain ⟨left, right, hsplit, rfl⟩ := h.standsAt
  refine ⟨left, right, rfl, hsplit, ?_⟩
  have hexchanged := segments_exchanged hsplit h.exchanges
  have htext : text = left.flatMap Segment.source ++ [quote] ++
      (inside ++ quote :: right.flatMap Segment.source) := by
    conv => lhs; rw [← segments_source [] text, hsplit]
    simp [Segment.source]
  have hover : overwrite text ((left.flatMap Segment.source).length + 1) other =
      (left ++ .literal quote (other ++ [quote]) true :: right).flatMap Segment.source := by
    have h' :=
      overwrite_append (left.flatMap Segment.source ++ [quote])
        (quote :: right.flatMap Segment.source) h.length
    rw [← htext, List.length_append, List.length_singleton] at h'
    rw [h']
    simp [Segment.source]
  rw [hover, hexchanged]

theorem skeleton_eq : skeleton (overwrite text (offset + 1) other) = skeleton text := by
  obtain ⟨left, right, _, hsegments, hover⟩ := h.exists_segments
  unfold skeleton
  rw [hsegments, hover, List.flatMap_append, List.flatMap_append, List.flatMap_cons,
    List.flatMap_cons, h.exchanges.skeleton]

theorem code_eq : code (overwrite text (offset + 1) other) = overwrite
    (code text) (offset + 1) other := by
  obtain ⟨left, right, rfl, hsegments, hover⟩ := h.exists_segments
  have hcode :=
    overwrite_append (left.flatMap Segment.code ++ [quote])
      (quote :: right.flatMap Segment.code) h.length
  rw [List.length_append, length_flatMap_code, List.length_singleton] at hcode
  unfold code
  rw [hsegments, hover]
  simpa [Segment.code] using hcode.symm

/-- The literal with the other inside stands where the literal stood. -/
theorem standsAt_same :
    StandsAt (overwrite text (offset + 1) other) offset
      (.literal quote (other ++ [quote]) true) := by
  obtain ⟨left, right, hoffset, _, hover⟩ := h.exists_segments
  exact ⟨left, right, hover, hoffset⟩

/-- All other segments stand where they stood. -/
theorem standsAt_other {k : Nat} {s : Segment} (hs : StandsAt text k s) (hk : k ≠ offset) :
    StandsAt (overwrite text (offset + 1) other) k s := by
  obtain ⟨left, right, hoffset, hsegments, hover⟩ := h.exists_segments
  obtain ⟨before, after, hsplit, rfl⟩ := hs
  have hat : before ≠ left := by
    rintro rfl
    exact hk hoffset
  rcases List.append_eq_append_iff.1 (hsplit.symm.trans hsegments)
    with ⟨mid, rfl, hmid⟩ | ⟨mid, rfl, hmid⟩
  · -- The segment stands before the literal.
    cases mid with
    | nil => exact absurd (List.append_nil before).symm hat
    | cons t between =>
      obtain ⟨rfl, rfl⟩ := List.cons.inj hmid
      exact ⟨before, _, by rw [hover, List.append_assoc, List.cons_append], rfl⟩
  · -- The segment stands after the literal.
    cases mid with
    | nil => exact absurd (List.append_nil left) hat
    | cons t between =>
      obtain ⟨rfl, rfl⟩ := List.cons.inj hmid
      refine ⟨left ++ .literal quote (other ++ [quote]) true :: between, after,
        by simpa using hover, ?_⟩
      simp [Segment.source, h.length]

/-- After a phrase that declares type names, the same is read as before, but for the literal that is
written over. -/
theorem literal?_eq {p : Phrase} (hp : p.declaresInScripts) {o : Span}
    (ho : o ∈ (views text).find p) (hstop : o.stop ≠ offset) :
    (views (overwrite text (offset + 1) other)).literal? o.stop = (views text).literal? o.stop := by
  by_cases hquote : ∃ q, isQuote q = true ∧ (skeleton text)[o.stop]? = some q
  · obtain ⟨q, hq, hshown⟩ := hquote
    obtain ⟨_, tail, closed, hs⟩ := opensAt_of_quote hp ho hshown hq
    rw [literal?_of_standsAt hs hq, literal?_of_standsAt (h.standsAt_other hs hstop) hq]
  · have hnone : ∀ v : Views, v.skeleton = skeleton text → v.literal? o.stop = none := by
      intro v hv
      refine Option.eq_none_iff_forall_ne_some.2 fun read hread => hquote ?_
      rw [← hv]
      exact quote_of_literal? hread
    rw [hnone _ h.skeleton_eq, hnone _ rfl]

theorem literal?_before : (views text).literal? offset = some inside :=
  literal?_of_closed h.standsAt h.quoted (.inr h.line)

theorem literal?_after : (views (overwrite text (offset + 1) other)).literal? offset = some other :=
  literal?_of_closed h.standsAt_same h.quoted (.inr h.harmless.line)

end Refilled

end Script

end TwinNode
