import Mathlib.Data.List.Basic
import TwinNode.Proofs.Markup.Block
import TwinNode.Proofs.Script.Shows

/-! The bodies of JavaScript blocks are masked where they were found, and their offsets are
found again in the masked text. Outside of these bodies nothing has changed, so the same
blocks are found, with one exception: a body ends early if there is a closing tag in it once
its comments are blanked, as in `</script/**/>`. -/

namespace TwinNode.Markup

open TwinNode.Text

theorem wellFormed_of_mem_pieces {text : List Char} {b : Block} (h : .block b ∈ pieces text) :
    b.WellFormed := by
  fun_induction pieces text with
  | case1 => cases h
  | case2 c cs found rest hfound ih =>
    rcases List.mem_cons.1 h with h | h
    · obtain rfl := Piece.block.inj h
      exact wellFormed_of_block? hfound
    · exact ih h
  | case3 c cs hnone ih =>
    rcases List.mem_cons.1 h with h | h
    · cases h
    · exact ih h

/-- A block with its body masked if that is JavaScript. -/
def Block.masked (b : Block) : Block :=
  { b with body := if isJavaScript b.attributes then Script.code b.body else b.body }

theorem code_block (b : Block) : Piece.code (.block b) = b.masked.source := rfl

theorem length_body_masked (b : Block) : b.masked.body.length = b.body.length := by
  unfold Block.masked
  dsimp only
  split
  · exact Script.length_code [] b.body
  · rfl

theorem length_source_masked (b : Block) : b.masked.source.length = b.source.length := by
  have hbody := length_body_masked b
  have hparts : b.masked.source.length = b.opening.length + (b.attributes.length +
      (b.masked.body.length + b.closing.length + 1)) := by
    simp [Block.source, Block.masked]
  rw [hparts, hbody]
  simp [Block.source]

theorem Block.WellFormed.masked {b : Block} (h : b.WellFormed)
    (hbody : untilClosingTag? b.masked.body = none) :
    b.masked.WellFormed := ⟨h.opening, h.word, h.attributes, hbody, h.closing⟩

theorem end_not_mem_opening {b : Block} (h : b.WellFormed) : '>' ∉ b.opening := by
  have hopening := h.opening []
  intro hin
  have hfold : foldLetter '>' ∈ "<script".toList := by
    rw [← map_foldLetter_of_spelled? hopening]
    exact List.mem_map_of_mem hin
  exact absurd hfold (by decide)

theorem tag_append (b : Block) (rest : List Char) :
    b.source ++ rest = (b.opening ++ b.attributes) ++ '>' :: (b.body ++ (b.closing ++ rest)) := by
  rw [Block.source_append, List.append_assoc]

section FirstEnd

variable (front rest : List Char)

theorem takeWhile_end (other : List Char) :
    (front ++ '>' :: rest).takeWhile (· != '>') = (front ++ '>' :: other).takeWhile (· != '>') := by
  induction front with
  | nil => simp
  | cons c front ih =>
    rw [List.cons_append, List.cons_append, List.takeWhile_cons, List.takeWhile_cons, ih]

theorem dropWhile_end : ∃ between, (front ++ '>' :: rest).dropWhile
    (· != '>') = '>' :: (between ++ rest) := by
  induction front with
  | nil => exact ⟨[], by simp⟩
  | cons c front ih =>
    rw [List.cons_append, List.dropWhile_cons]
    split
    · exact ih
    · next hc =>
      obtain rfl : c = '>' := by simpa using hc
      exact ⟨front ++ ['>'], by simp⟩

theorem untilClosingTag?_isSome {tag : List Char}
    (htag : ∀ more, closingTag? (tag ++ more) = some (tag, more)) :
    ∃ split, untilClosingTag? (front ++ (tag ++ rest)) = some split := by
  obtain ⟨inside, rfl, _⟩ := closingTag?_angle (htag [])
  induction front with
  | nil =>
    have hfirst := htag rest
    rw [List.nil_append]
    rw [List.cons_append] at hfirst ⊢
    rw [untilClosingTag?, hfirst]
    exact ⟨_, rfl⟩
  | cons c front ih =>
    obtain ⟨split, hsplit⟩ := ih
    rw [List.cons_append, untilClosingTag?]
    split
    · exact ⟨_, rfl⟩
    · exact ⟨_, by rw [hsplit, Option.map_some]⟩

end FirstEnd

section Front

variable {found : List Piece} (h : ∀ b, .block b ∈ found → b.WellFormed)

/-- Masking changes nothing before the first angle that ends a tag. -/
theorem takeWhile_code (found : List Piece) : (found.flatMap Piece.code).takeWhile (· != '>') =
    (found.flatMap Piece.source).takeWhile (· != '>') := by
  induction found with
  | nil => rfl
  | cons piece found ih =>
    rw [List.flatMap_cons, List.flatMap_cons]
    cases piece with
    | text c =>
      have hcode : Piece.code (.text c) = [c] := rfl
      have hsource : Piece.source (.text c) = [c] := rfl
      rw [hcode, hsource, List.singleton_append, List.singleton_append,
        List.takeWhile_cons, List.takeWhile_cons, ih]
    | block b =>
      have hsource : Piece.source (.block b) = b.source := rfl
      rw [code_block, hsource, tag_append, tag_append]
      exact takeWhile_end (b.opening ++ b.attributes) _ _

theorem code_eq_source {found : List Piece} (hnone : ∀ b, .block b ∉ found) :
    found.flatMap Piece.code = found.flatMap Piece.source :=
  List.flatMap_congr fun piece hp => by
    cases piece with
    | text c => rfl
    | block b => exact absurd hp (hnone b)

/-- After the first angle that ends a tag, each block is still to be closed. -/
theorem dropWhile_source {found : List Piece} {b : Block} (h : .block b ∈ found) : ∃ between rest,
    (found.flatMap Piece.source).dropWhile (· != '>') =
      '>' :: (between ++ (b.closing ++ rest)) := by
  obtain ⟨front, back, rfl⟩ := List.append_of_mem h
  have hone : Piece.source (.block b) = b.source := rfl
  have hsource : (front ++ .block b :: back).flatMap Piece.source =
      (front.flatMap Piece.source ++ (b.opening ++ b.attributes)) ++
        '>' :: (b.body ++ (b.closing ++ back.flatMap Piece.source)) := by
    rw [List.flatMap_append, List.flatMap_cons, hone, tag_append]
    simp only [List.append_assoc]
  obtain ⟨between, hbetween⟩ :=
    dropWhile_end (front.flatMap Piece.source ++ (b.opening ++ b.attributes))
    (b.body ++ (b.closing ++ back.flatMap Piece.source))
  exact ⟨between ++ b.body, back.flatMap Piece.source, by rw [hsource, hbetween, List.append_assoc]⟩

/-- The tag of a block is what stands before the first angle that ends a tag. -/
theorem takeWhile_of_block? {c : Char} {cs : List Char} {b : Block} {rest : List Char}
    (h : block? (c :: cs) = some (b, rest)) :
    c :: cs.takeWhile (· != '>') = b.opening ++ b.attributes := by
  have hform : b.WellFormed := wellFormed_of_block? h
  have hsource : b.source ++ rest = c :: cs := block?_source h
  have hend : '>' ∉ b.opening ++ b.attributes := by
    simp only [List.mem_append, not_or]
    exact ⟨end_not_mem_opening hform, hform.attributes⟩
  rw [tag_append] at hsource
  have htake := (splitAtEnd hend (b.body ++ (b.closing ++ rest))).2
  rw [hsource, List.takeWhile_cons] at htake
  split at htake
  · exact htake
  · obtain ⟨d, opening, hopening⟩ : ∃ d opening, b.opening = d :: opening := by
      have htag := map_foldLetter_of_spelled? (hform.opening [])
      cases ho : b.opening with
      | nil =>
        simp only [ho, List.map_nil] at htag
        cases htag
      | cons d opening => exact ⟨d, opening, rfl⟩
    rw [hopening] at htake
    cases htake

include h in
/-- Where no block begins, none begins after the blocks that follow are masked. -/
theorem block?_code_eq_none {c : Char} (hnone : block? (c :: found.flatMap Piece.source) = none) :
    block? (c :: found.flatMap Piece.code) = none := by
  by_contra hsome
  obtain ⟨⟨b, rest⟩, hb⟩ := Option.ne_none_iff_exists'.1 hsome
  by_cases hblock : ∃ e, .block e ∈ found
  · -- The tag that begins here ends at the same angle in both texts, and the next block is closed
    -- in both.
    obtain ⟨e, he⟩ := hblock
    have hform : b.WellFormed := wellFormed_of_block? hb
    have htag := takeWhile_of_block? hb
    rw [takeWhile_code] at htag
    obtain ⟨between, after, hafter⟩ := dropWhile_source he
    obtain ⟨split, hclosed⟩ := untilClosingTag?_isSome between after (h e he).closing
    obtain ⟨hbody, hclosing⟩ := untilClosingTag?_eq_none hclosed
    have hother : (Block.mk b.opening b.attributes split.1 split.2.1).WellFormed :=
      ⟨hform.opening, hform.word, hform.attributes, hbody, hclosing⟩
    have htext : c :: found.flatMap Piece.source =
        (Block.mk b.opening b.attributes split.1 split.2.1).source ++ split.2.2 := by
      rw [← List.takeWhile_append_dropWhile (p := (· != '>')) (l := found.flatMap Piece.source),
        ← List.cons_append, htag, hafter, tag_append, ← untilClosingTag?_source hclosed]
      simp only [List.append_assoc]
    rw [htext, hother.block?] at hnone
    cases hnone
  · have hplain : ∀ e, .block e ∉ found := fun e he => hblock ⟨e, he⟩
    rw [code_eq_source hplain, hnone] at hb
    cases hb

end Front

theorem isJavaScript_masked {b : Block} (h : isJavaScript b.attributes = true) :
    b.masked.body = Script.code b.body := if_pos h

theorem masked_of_other {b : Block} (h : isJavaScript b.attributes = false) : b.masked = b := by
  unfold Block.masked
  rw [h, if_neg Bool.false_ne_true]

/-- A closing tag in the masked body of a block ends the block early. -/
theorem exists_shorter {b : Block} (h : b.WellFormed) {split : List Char × List Char × List Char}
    (hbody : untilClosingTag? b.masked.body = some split) (more : List Char) :
    ∃ short rest, short.bodyStart = b.bodyStart ∧ short.attributes = b.attributes ∧
      short.body.length < b.body.length ∧ pieces (b.masked.source ++ more) =
        .block short :: rest := by
  obtain ⟨hinside, hclosing⟩ := untilClosingTag?_eq_none hbody
  have hform : (Block.mk b.opening b.attributes split.1 split.2.1).WellFormed :=
    ⟨h.opening, h.word, h.attributes, hinside, hclosing⟩
  have hsource := untilClosingTag?_source hbody
  have htext : b.masked.source ++ more =
      (Block.mk b.opening b.attributes split.1 split.2.1).source ++
        (split.2.2 ++ (b.closing ++ more)) := by
    rw [tag_append, tag_append, ← hsource]
    simp only [List.append_assoc]
    rfl
  have hlength := congrArg List.length hsource
  obtain ⟨inside, htag, _⟩ := closingTag?_angle (hclosing [])
  rw [length_body_masked, htag] at hlength
  simp only [List.length_append, List.length_cons] at hlength
  refine ⟨⟨b.opening, b.attributes, split.1, split.2.1⟩,
    pieces (split.2.2 ++ (b.closing ++ more)), rfl, rfl,
      (show split.1.length < b.body.length by omega), ?_⟩
  rw [htext]
  exact pieces_wellFormed hform _

theorem javaScriptSpansFrom_code_iff (text : List Char) (offset : Nat) :
    javaScriptSpansFrom offset (pieces ((pieces text).flatMap Piece.code)) =
      javaScriptSpansFrom offset (pieces text) ↔
      ∀ b, .block b ∈ pieces text → isJavaScript b.attributes = true →
        untilClosingTag? (Script.code b.body) = none := by
  fun_induction pieces text generalizing offset with
  | case1 => simp [pieces]
  | case2 c cs b rest hfound ih =>
    have hform : b.WellFormed := wellFormed_of_block? hfound
    have hlater := ih (offset + b.source.length)
    have hcode : (.block b :: pieces rest).flatMap Piece.code =
        b.masked.source ++ (pieces rest).flatMap Piece.code := rfl
    have hmem : ∀ e, Piece.block e ∈ .block b :: pieces rest ↔
        e = b ∨ .block e ∈ pieces rest := fun e => by simp
    rw [hcode]
    simp only [hmem, forall_eq_or_imp]
    cases hjs : isJavaScript b.attributes with
    | false =>
      rw [masked_of_other hjs, pieces_wellFormed hform, javaScriptSpansFrom_other _ _ hjs,
        javaScriptSpansFrom_other _ _ hjs, hlater]
      simp
    | true =>
      rw [javaScriptSpansFrom_script _ _ hjs, ← isJavaScript_masked hjs]
      -- The block is found at the same place in both texts; only its body may end earlier in the
      -- masked one.
      cases hbody : untilClosingTag? b.masked.body with
      | none =>
        have hmasked : isJavaScript b.masked.attributes = true := hjs
        have hstart : b.masked.bodyStart = b.bodyStart := rfl
        rw [pieces_wellFormed (hform.masked hbody), javaScriptSpansFrom_script _ _ hmasked, hstart,
          length_body_masked, length_source_masked, List.cons.injEq, hlater]
        simp
      | some split =>
        obtain ⟨short, others, hstart, hattributes, hshort, hpieces⟩ :=
          exists_shorter hform hbody ((pieces rest).flatMap Piece.code)
        rw [hpieces, javaScriptSpansFrom_script _ _ (hattributes ▸ hjs), hstart]
        refine iff_of_false (fun heq => ?_) fun hall => by simpa using hall.1 rfl
        have hstop := (Span.mk.inj (List.cons.inj heq).1).2
        omega
  | case3 c cs hnone ih =>
    have hrest : block? (c :: (pieces cs).flatMap Piece.code) = none :=
      block?_code_eq_none (fun b hb => wellFormed_of_mem_pieces hb) (by rwa [pieces_source])
    have hcode : (.text c :: pieces cs).flatMap Piece.code =
        c :: (pieces cs).flatMap Piece.code := rfl
    have hmem : ∀ b, Piece.block b ∈ .text c :: pieces cs ↔ .block b ∈ pieces cs := fun b => by simp
    rw [hcode, pieces_of_block?_none hrest, javaScriptSpansFrom_text, javaScriptSpansFrom_text, ih]
    simp only [hmem]

/-- The offsets that are found in the views of a text are those of the bodies that were masked in
it, if and only if blanking the comments of a body never makes a closing tag of what was none. -/
theorem javaScriptSpans_views_iff (text : List Char) :
    (views text).javaScriptSpans = javaScriptSpansFrom 0 (pieces (blankComments false text)) ↔
      ∀ b, .block b ∈ pieces (blankComments false text) → isJavaScript b.attributes = true →
        untilClosingTag? (Script.code b.body) = none :=
  javaScriptSpansFrom_code_iff (blankComments false text) 0

/-- A body that has a closing tag in it once its comment is blanked: `/a</` is a regular
expression. -/
def commentedTag : List Char :=
  ['/', 'a', '<', '/', 's', 'c', 'r', 'i', 'p', 't', '/', '*', '*', '/', '>']

theorem code_commentedTag :
    Script.code commentedTag =
      ['/', 'a', '<', '/', 's', 'c', 'r', 'i', 'p', 't', ' ', ' ', ' ', ' ', '>'] := by
  -- The segments one by one: a regular expression, a word, a comment and an angle.
  have hregex : Script.next [] '/' commentedTag.tail =
      (.literal '/' ['a', '<', '/'] true, ['s', 'c', 'r', 'i', 'p', 't'] ++
        ['/', '*', '*', '/', '>']) := rfl
  have hcomment (before : List Char) :
      Script.next before '/' ['*', '*', '/', '>'] = (.comment ['/', '*', '*', '/'], ['>']) := rfl
  have hplain : ∀ c ∈ ['s', 'c', 'r', 'i', 'p', 't'], ¬Script.Delimits c := by decide
  have hangle : ∀ c ∈ ['>'], ¬Script.Delimits c := by decide
  obtain ⟨seen, hword, _⟩ := Script.Shows.plain hplain
    ((Script.Segment.literal '/' ['a', '<', '/'] true).skeleton.reverse ++ [])
    ['/', '*', '*', '/', '>']
  obtain ⟨last, hend, _⟩ := Script.Shows.plain hangle
    ((Script.Segment.comment ['/', '*', '*', '/']).skeleton.reverse ++ seen) []
  have hcons : commentedTag = '/' :: commentedTag.tail := rfl
  rw [Script.code, hcons, Script.segments, hregex, List.flatMap_cons, hword,
    Script.segments, hcomment, List.flatMap_cons, ← List.append_nil ['>'], hend, Script.segments]
  rfl

theorem pieces_commentedTag :
    pieces (Block.written [] commentedTag).source = [.block (Block.written [] commentedTag)] := by
  have hopening : (Block.written [] commentedTag).source ++ [] =
      (Block.written [] commentedTag).source := List.append_nil _
  have hform : (Block.written [] commentedTag).WellFormed :=
    wellFormed_written rfl List.not_mem_nil (by decide)
  rw [← hopening, pieces_wellFormed hform, pieces]

/-- The second search ends the body at the closing tag that the first one had passed over. -/
theorem javaScriptSpans_commentedTag :
    (views "<script>/a</script/**/></script>".toList).javaScriptSpans ≠
      javaScriptSpansFrom 0
        (pieces (blankComments false "<script>/a</script/**/></script>".toList)) := by
  have htext : blankComments false "<script>/a</script/**/></script>".toList =
      (Block.written [] commentedTag).source :=
    rfl
  have hclosed : untilClosingTag? (Script.code commentedTag) ≠ none := by
    rw [code_commentedTag]
    decide
  intro heq
  rw [Views.javaScriptSpans, views, htext] at heq
  have hall := (javaScriptSpansFrom_code_iff _ 0).1 heq
  rw [pieces_commentedTag] at hall
  exact hclosed (hall _ List.mem_cons_self (by decide))

end TwinNode.Markup
