import TwinNode.Proofs.Script.Segment

/-! A string that is never closed, or a slash that is taken for a regular expression, spoils
the scan of its line. It goes no further: only a template literal, a block comment and an
escaped line break lead from one line to the next. On a line without them every segment ends
before the line break, which is a plain character again. -/

namespace TwinNode.Script

/-- A line, or the rest of one, that no segment leads out of: no template literal and no block
comment begins on it, and its line break is not escaped. -/
structure Contained (line : List Char) : Prop where
  noBreak : '\n' ∉ line
  noTemplate : backtick ∉ line
  noComment : ¬['/', '*'] <:+: line
  noEscape : line.getLast? ≠ some '\\'

theorem Contained.of_suffix {kept line : List Char} (h : Contained line) (hs : kept <:+ line) :
    Contained kept where
  noBreak hin := h.noBreak (hs.mem hin)
  noTemplate hin := h.noTemplate (hs.mem hin)
  noComment hin := h.noComment (hin.trans hs.isInfix)
  noEscape hlast := by
    obtain ⟨cut, rfl⟩ := hs
    apply h.noEscape
    rw [List.getLast?_append, hlast]
    rfl

theorem Contained.tail {c : Char} {line : List Char} (h : Contained (c :: line)) : Contained line :=
  h.of_suffix (List.suffix_cons c line)

/-- What begins on a line and is no template ends on the line. -/
theorem literalTail_line {delimiter : Char} (hd : delimiter ≠ backtick)
    (inClass : Bool) {line : List Char} (h : Contained line) (below : List Char) :
    ∃ kept, kept <:+ line ∧ (literalTail delimiter inClass (line ++ '\n' :: below)).rest =
      kept ++ '\n' :: below := by
  generalize htext : line ++ '\n' :: below = text
  fun_induction literalTail delimiter inClass text generalizing line with
  | case1 => simp at htext
  | case2 => cases line <;> simp at htext
  | case3 inClass c cs ih =>
    -- The character after the escape belongs to the line.
    cases line with
    | nil => simp at htext
    | cons d line =>
      obtain ⟨rfl, hafter⟩ := List.cons.inj htext
      cases line with
      | nil => exact absurd rfl h.noEscape
      | cons e line =>
        obtain ⟨kept, hkept, hrest⟩ := ih h.tail.tail (List.cons.inj hafter).2
        exact ⟨kept, hkept.trans (List.suffix_append [_, e] line), hrest⟩
  | case4 inClass c cs => exact ⟨line, List.suffix_rfl, htext.symm⟩
  | case5 inClass c cs _ _ hbreak hc =>
    cases line with
    | nil => exact absurd ⟨(List.cons.inj htext).1.symm, hd⟩ hbreak
    | cons d line => exact ⟨line, List.suffix_cons d line, (List.cons.inj htext).2.symm⟩
  | case6 inClass c cs _ _ hbreak _ ih =>
    cases line with
    | nil => exact absurd ⟨(List.cons.inj htext).1.symm, hd⟩ hbreak
    | cons d line =>
      obtain ⟨kept, hkept, hrest⟩ := ih h.tail (List.cons.inj htext).2
      exact ⟨kept, hkept.trans (List.suffix_cons d line), hrest⟩

theorem dropWhile_ofLine {line : List Char} (h : '\n' ∉ line) (below : List Char) :
    (line ++ '\n' :: below).dropWhile (· != '\n') = '\n' :: below := by
  have hline : ∀ c ∈ line, (c != '\n') = true := by
    intro c hc
    rw [bne_iff_ne]
    rintro rfl
    exact h hc
  rw [List.dropWhile_append_of_pos hline]
  simp

/-- The segment that begins at a place of a line ends on the line. -/
theorem next_line (before : List Char) {c : Char} {line : List Char}
    (h : Contained (c :: line)) (below : List Char) :
    ∃ kept, kept <:+ line ∧ (next before c (line ++ '\n' :: below)).2 = kept ++ '\n' :: below := by
  unfold next
  split
  · exact ⟨[], List.nil_suffix, dropWhile_ofLine h.tail.noBreak below⟩
  split
  next hc =>
    -- The star would have to be on the line, too.
    exfalso
    cases line with
    | nil => simp at hc
    | cons d line =>
      obtain ⟨rfl, hstar⟩ := hc
      obtain rfl : d = '*' := by simpa using hstar
      exact h.noComment ⟨[], line, rfl⟩
  split
  · apply literalTail_line _ false h.tail
    rintro rfl
    exact h.noTemplate List.mem_cons_self
  · exact ⟨line, List.suffix_rfl, rfl⟩

/-- The segments from a place of a line on make up the rest of the line, and the line break begins a
new one. -/
theorem segments_line {line : List Char} (h : Contained line) (before below : List Char) :
    ∃ inner seen, segments before (line ++ '\n' :: below) = inner ++ segments seen ('\n' :: below) ∧
      inner.flatMap Segment.source = line := by
  match line with
  | [] => exact ⟨[], before, rfl, rfl⟩
  | c :: line =>
    obtain ⟨kept, hkept, hrest⟩ := next_line before h below
    have hsource := next_source before c (line ++ '\n' :: below)
    rw [hrest, ← List.append_assoc, ← List.cons_append] at hsource
    obtain ⟨inner, seen, hinner, hline⟩ := segments_line (h.tail.of_suffix hkept)
      ((next before c (line ++ '\n' :: below)).1.skeleton.reverse ++ before) below
    refine ⟨(next before c (line ++ '\n' :: below)).1 :: inner, seen, ?_, ?_⟩
    · rw [List.cons_append, segments, hrest, hinner]
      rfl
    · rw [List.flatMap_cons, hline]
      exact List.append_cancel_right hsource
termination_by line.length
decreasing_by
  have := hkept.length_le
  simp
  omega

/-- The segments after some of them are those of the text after these. -/
theorem segments_after {before text : List Char} {left right : List Segment}
    (h : segments before text = left ++ right) :
    ∃ seen, right = segments seen (text.drop (left.flatMap Segment.source).length) := by
  rcases List.eq_nil_or_concat left with rfl | ⟨left, s, rfl⟩
  · exact ⟨before, h.symm⟩
  · rw [List.concat_eq_append, List.append_assoc] at h
    obtain ⟨seen, rest, rfl, _, rfl, _⟩ := segments_split h
    refine ⟨seen, ?_⟩
    rw [List.concat_eq_append, List.flatMap_append, ← List.append_assoc,
      List.flatMap_singleton, List.drop_left]

/-- Behind a segment the next one begins, unless the script ends there. -/
theorem StandsAt.next {text : List Char} {offset : Nat} {s : Segment} (h : StandsAt text offset s)
    (hend : offset + s.source.length < text.length) :
    ∃ t, StandsAt text (offset + s.source.length) t := by
  obtain ⟨left, right, hsplit, rfl⟩ := h
  cases right with
  | nil =>
    rw [← segments_source [] text, hsplit] at hend
    simp at hend
  | cons t right => exact ⟨t, left ++ [s], right, by simp [hsplit], by simp⟩

/-- A line without templates, block comments and an escaped line break may hold any quotes, slashes
and brackets. Where a segment begins with the line, the line break is a plain character of its own,
so that a segment begins with the next line, too. -/
theorem mistakes_stay_on_line {above line below : List Char} (hline : Contained line)
    {first : Segment} (hstart : StandsAt (above ++ line ++ '\n' :: below) above.length first) :
    StandsAt (above ++ line ++ '\n' :: below) (above ++ line).length (.plain '\n') ∧
      (below = [] ∨
        ∃ s, StandsAt (above ++ line ++ '\n' :: below) ((above ++ line).length + 1) s) := by
  obtain ⟨left, right, hsplit, hoffset⟩ := hstart
  obtain ⟨seen, hright⟩ := segments_after hsplit
  rw [hoffset, List.append_assoc, List.drop_left] at hright
  obtain ⟨inner, before, hinner, hsource⟩ := segments_line hline seen below
  have hbreak : segments before ('\n' :: below) = .plain '\n' ::
      segments ('\n' :: before) below := by
    rw [segments, next_plain (by decide)]
    rfl
  have hplain : StandsAt (above ++ line ++ '\n' :: below) (above ++ line).length (.plain '\n') := by
    refine ⟨left ++ inner, segments ('\n' :: before) below, ?_, ?_⟩
    · rw [hsplit, hright, hinner, hbreak, List.append_assoc]
    · simp [hoffset, hsource]
  refine ⟨hplain, ?_⟩
  cases below with
  | nil => exact .inl rfl
  | cons d below =>
    refine .inr (hplain.next ?_)
    simp [Segment.source]
    omega

def openLine : List Char := "b = 'it\\' / [x".toList

theorem mistakes_stay_on_line_open : Contained openLine ∧
    StandsAt ("a\n".toList ++ openLine ++ '\n' :: "'c'".toList) 2 (.plain 'b') ∧
      StandsAt ("a\n".toList ++ openLine ++ '\n' :: "'c'".toList) 16 (.plain '\n') := by
  have hline : Contained openLine :=
    ⟨by decide +kernel, by decide +kernel, by decide +kernel, by decide +kernel⟩
  have hstart : StandsAt ("a\n".toList ++ openLine ++ '\n' :: "'c'".toList) 2 (.plain 'b') := by
    refine ⟨[.plain 'a', .plain '\n'], [.plain ' ', .plain '=', .plain ' ',
      .literal '\x27' "it\\' / [x".toList false, .plain '\n',
        .literal '\x27' "c'".toList true], ?_, rfl⟩
    decide +kernel
  exact ⟨hline, hstart, (mistakes_stay_on_line hline hstart).1⟩

end TwinNode.Script
