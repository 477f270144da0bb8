import TwinNode.Proofs.Scan.Masking
import TwinNode.Proofs.Script.Segment

/-! What a step cuts off depends on the text after it in a few ways only: whether there is
any, whether it begins with a line break, and whether its first character makes a comment of
a slash. So a segment stays a segment when the text after it changes and these stay, and one
segment of a script can be exchanged for another that looks the same from outside. -/

namespace TwinNode.Script

/-- Another text after a segment, where the segment ends as before. -/
structure Continues (rest other : List Char) : Prop where
  ends : rest = [] → other = []
  breaks : rest.head? = some '\n' → other.head? = some '\n'
  opens : ∀ c, c = '/' ∨ c = '*' → other.head? = some c → rest.head? = some c

theorem Continues.of_head {rest other : List Char} (h : rest.head? = other.head?) :
    Continues rest other where
  ends hr := List.head?_eq_none_iff.1 (by rw [← h, hr]; rfl)
  breaks hr := h ▸ hr
  opens _ _ ho := h ▸ ho

/-- A mask of a text ends a segment before it as the text does. -/
theorem Continues.of_mask {rest other : List Char} (h : MaskOf other rest) :
    Continues rest other := by
  cases h with
  | nil => exact .of_head rfl
  | @cons shown written _ _ hc _ =>
    refine ⟨nofun, fun hr => ?_, fun d hd ho => ?_⟩
    · rw [List.head?_cons, Option.some.injEq] at hr ⊢
      exact hc.newline_iff.2 hr
    · rw [List.head?_cons, Option.some.injEq] at ho ⊢
      subst ho
      rcases hc.same_or_space with heq | rfl
      · exact heq.symm
      · rcases hd with hd | hd <;> exact absurd hd (by decide)

theorem head?_blockComment (cs : List Char) : (blockComment cs).1.head? = cs.head? := by
  fun_cases blockComment cs <;> rfl

/-- A block comment ends where it ended before, or with the text. -/
theorem blockComment_continued {cs other : List Char} (h : (blockComment cs).2 = [] → other = []) :
    blockComment ((blockComment cs).1 ++ other) = ((blockComment cs).1, other) := by
  fun_induction blockComment cs with
  | case1 => simp [h rfl, blockComment]
  | case2 cs => rfl
  | case3 c cs hopen ih =>
    have ih := ih h
    rw [List.cons_append, blockComment, ih]
    -- A slash that follows a star now would have followed it before.
    rintro more rfl hmore
    have hhead := head?_blockComment cs
    cases cs with
    | nil => simp [h rfl, blockComment] at hmore
    | cons d ds =>
      obtain ⟨body, hbody⟩ := List.head?_eq_some_iff.1 hhead
      rw [hbody] at hmore
      exact hopen ds rfl (by rw [(List.cons.inj hmore).1])

/-- A literal ends where it ended before: at its delimiter, at the end of its line, or with the
text. -/
theorem literalTail_continued {delimiter : Char} {inClass : Bool} {cs other : List Char}
    (h : (literalTail delimiter inClass cs).closed = false →
      Continues (literalTail delimiter inClass cs).rest other) :
    literalTail delimiter inClass ((literalTail delimiter inClass cs).text ++ other) =
      { literalTail delimiter inClass cs with rest := other } := by
  have plain : ∀ {c : Char} {cs : List Char}, (c = '\\' → cs = [] → False) →
    (∀ d ds, c = '\\' → cs = d :: ds → False) →
      c ≠ '\\' := by
    rintro c (_ | ⟨d, ds⟩) hlast hescape rfl
    · exact hlast rfl rfl
    · exact hescape d ds rfl rfl
  -- Along the reading of the literal; the text after it matters only where no delimiter closes it.
  fun_induction literalTail delimiter inClass cs with
  | case1 inClass | case2 inClass =>
    obtain rfl := (h rfl).ends rfl
    simp [literalTail]
  | case3 inClass c cs ih =>
    have ih := ih h
    simp only [LiteralTail.push_text, List.cons_append, literalTail, ih]
    rfl
  | case4 inClass c cs _ _ hc =>
    obtain ⟨more, rfl⟩ := List.head?_eq_some_iff.1 ((h rfl).breaks (by rw [List.head?_cons, hc.1]))
    rw [List.nil_append, literalTail_cons (by decide), if_pos ⟨rfl, hc.2⟩]
  | case5 inClass c cs hlast hescape hline hc =>
    rw [List.singleton_append, literalTail_cons (plain hlast hescape), if_neg hline, if_pos hc]
  | case6 inClass c cs hlast hescape hline hc ih =>
    have ih := ih h
    rw [LiteralTail.push_text, List.cons_append, literalTail_cons (plain hlast hescape),
      if_neg hline, if_neg hc, ih]
    rfl

theorem dropWhile_line (cs : List Char) :
    cs.dropWhile (· != '\n') = [] ∨ (cs.dropWhile (· != '\n')).head? = some '\n' := by
  cases hd : cs.dropWhile (· != '\n') with
  | nil => exact .inl rfl
  | cons c rest =>
    have hc := List.head?_dropWhile_not (· != '\n') cs
    rw [hd] at hc
    exact .inr (by simpa using hc)

theorem line_continued {cs other : List Char} (h : Continues (cs.dropWhile (· != '\n')) other) :
    (cs.takeWhile (· != '\n') ++ other).takeWhile (· != '\n') = cs.takeWhile (· != '\n') ∧
      (cs.takeWhile (· != '\n') ++ other).dropWhile (· != '\n') = other := by
  have hline : ∀ c ∈ cs.takeWhile (· != '\n'), (c != '\n') = true :=
    fun c hc => List.all_eq_true.1 List.all_takeWhile c hc
  rw [List.takeWhile_append_of_pos hline, List.dropWhile_append_of_pos hline]
  rcases (dropWhile_line cs).imp h.ends h.breaks with rfl | hbreak
  · simp
  · obtain ⟨more, rfl⟩ := List.head?_eq_some_iff.1 hbreak
    simp

theorem Continues.head {rest other : List Char} (h : Continues rest other)
    (body : List Char) {c : Char} (hc : c = '/' ∨ c = '*')
    (hother : (body ++ other).head? = some c) : (body ++ rest).head? = some c := by
  cases body with
  | nil => exact h.opens c hc hother
  | cons d body => exact hother

/-- A step cuts off the same segment when the text after the segment changes. -/
theorem next_continued {before cs other : List Char} {c : Char}
    (h : Continues (next before c cs).2 other) :
    ∃ body, (next before c cs).1.source = c :: body ∧ next before c (body ++ other) =
      ((next before c cs).1, other) := by
  -- The four cases in which `next` looks at the text: line comment, block comment, literal, plain
  -- character.
  by_cases hline : c = '/' ∧ cs.head? = some '/'
  · have hnext : next before c cs =
        (.comment (c :: cs.takeWhile (· != '\n')), cs.dropWhile (· != '\n')) := if_pos hline
    rw [hnext] at h ⊢
    obtain ⟨htake, hdrop⟩ := line_continued h
    have hhead : (cs.takeWhile (· != '\n') ++ other).head? = some '/' := by
      obtain ⟨more, rfl⟩ := List.head?_eq_some_iff.1 hline.2
      rfl
    refine ⟨_, rfl, ?_⟩
    rw [next, if_pos ⟨hline.1, hhead⟩, htake, hdrop]
  by_cases hblock : c = '/' ∧ cs.head? = some '*'
  · have hnext : next before c cs =
        (.comment (c :: '*' :: (blockComment cs.tail).1), (blockComment cs.tail).2) := by
      rw [next, if_neg hline, if_pos hblock]
    rw [hnext] at h ⊢
    refine ⟨_, rfl, ?_⟩
    rw [next, if_neg (by simp), if_pos ⟨hblock.1, rfl⟩, List.cons_append, List.tail_cons,
      blockComment_continued h.ends]
  -- A slash that begins no comment begins none now.
  have hopen : ∀ body rest, Continues rest other → body ++ rest = cs →
      ¬(c = '/' ∧ (body ++ other).head? = some '/') ∧
        ¬(c = '/' ∧ (body ++ other).head? = some '*') := by
    rintro body rest hrest rfl
    exact ⟨fun hc => hline ⟨hc.1, hrest.head body (.inl rfl) hc.2⟩,
      fun hc => hblock ⟨hc.1, hrest.head body (.inr rfl) hc.2⟩⟩
  by_cases hliteral : (isQuote c || (c == '/' && startsRegex before)) = true
  · have hnext : next before c cs =
        (.literal c (literalTail c false cs).text (literalTail c false cs).closed,
          (literalTail c false cs).rest) := by
      rw [next, if_neg hline, if_neg hblock, if_pos hliteral]
    rw [hnext] at h ⊢
    obtain ⟨hline', hblock'⟩ := hopen _ _ h (literalTail_source c false cs)
    refine ⟨_, rfl, ?_⟩
    rw [next, if_neg hline', if_neg hblock', if_pos hliteral, literalTail_continued fun _ => h]
  · have hnext : next before c cs = (.plain c, cs) := by
      rw [next, if_neg hline, if_neg hblock, if_neg hliteral]
    rw [hnext] at h ⊢
    obtain ⟨hline', hblock'⟩ := hopen [] cs h rfl
    refine ⟨[], rfl, ?_⟩
    rw [next, if_neg hline', if_neg hblock', if_neg hliteral]
    rfl

/-- A segment that is cut off first from a text that begins with it, given the skeleton on its
left. -/
def CutFirst (before : List Char) (s : Segment) (rest : List Char) : Prop :=
  ∃ c body, s.source = c :: body ∧ next before c (body ++ rest) = (s, rest)

theorem next_cutFirst {before cs other : List Char} {c : Char}
    (h : Continues (next before c cs).2 other) :
    CutFirst before (next before c cs).1 other := by
  obtain ⟨body, hs, hnext⟩ := next_continued h
  exact ⟨c, body, hs, hnext⟩

theorem segments_cutFirst {before rest : List Char} {s : Segment} (h : CutFirst before s rest) :
    segments before (s.source ++ rest) = s :: segments (s.skeleton.reverse ++ before) rest := by
  obtain ⟨c, body, hs, hnext⟩ := h
  rw [hs, List.cons_append, segments, hnext]

/-- Two segments that can take each other's place: they begin with the same character and look the
same in the skeleton, and where one is cut off first, the other is. -/
structure Exchanges (s t : Segment) : Prop where
  head : t.source.head? = s.source.head?
  skeleton : t.skeleton = s.skeleton
  cutFirst : ∀ before rest, CutFirst before s rest → CutFirst before t rest

theorem Exchanges.head?_flatMap {s t : Segment} (h : Exchanges s t) (left right : List Segment) :
    ((left ++ s :: right).flatMap Segment.source).head? =
      ((left ++ t :: right).flatMap Segment.source).head? := by
  simp [List.head?_append, h.head]

/-- Where a segment of a script is exchanged for another one, the other segments stay. -/
theorem segments_exchanged {before text : List Char} {left right : List Segment} {s t : Segment}
    (h : segments before text = left ++ s :: right) (hst : Exchanges s t) :
    segments before ((left ++ t :: right).flatMap Segment.source) = left ++ t :: right := by
  -- On the segments before the one that is exchanged: each is cut off as before, since the text
  -- after it begins alike.
  induction left generalizing before text with
  | nil =>
    cases text with
    | nil => simp [segments] at h
    | cons c cs =>
      rw [segments] at h
      obtain ⟨rfl, hright⟩ := List.cons.inj h
      have hcut := hst.cutFirst before (next before c cs).2 (next_cutFirst (.of_head rfl))
      rw [List.nil_append, List.flatMap_cons, ← hright, segments_source,
        segments_cutFirst hcut, hst.skeleton]
  | cons first left ih =>
    cases text with
    | nil => simp [segments] at h
    | cons c cs =>
      rw [segments] at h
      obtain ⟨rfl, hrest⟩ : (next before c cs).1 = first ∧ _ = left ++ s :: right := List.cons.inj h
      have hhead :
          (next before c cs).2.head? = ((left ++ t :: right).flatMap Segment.source).head? := by
        rw [← hst.head?_flatMap left right, ← hrest, segments_source]
      rw [List.cons_append, List.flatMap_cons, segments_cutFirst (next_cutFirst (.of_head hhead)),
        ih hrest]

end TwinNode.Script
