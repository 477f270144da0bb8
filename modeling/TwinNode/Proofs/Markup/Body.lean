import TwinNode.Proofs.Markup.Rescan
import TwinNode.Proofs.Scan.Masking

namespace TwinNode.Markup

/-- The body of a JavaScript block, and where it begins in the text. -/
structure BodyAt (text : List Char) (start : Nat) (b : Block) : Prop where
  javaScript : isJavaScript b.attributes = true
  stands : ∃ left right, pieces (blankComments false text) = left ++ .block b :: right ∧
    start = (left.flatMap Piece.source).length + b.bodyStart

theorem length_flatMap_code (left : List Piece) :
    (left.flatMap Piece.code).length = (left.flatMap Piece.source).length :=
  (MaskOf.flatMap fun p _ => p.code_maskOf_source).length_eq

theorem length_flatMap_skeleton (left : List Piece) :
    (left.flatMap Piece.skeleton).length = (left.flatMap Piece.source).length :=
  (MaskOf.flatMap fun p _ => p.skeleton_maskOf_code).length_eq.trans (length_flatMap_code left)

/-- A view of the pieces, from the body of a block on. -/
theorem drop_bodyStart {face : Piece → List Char} {left : List Piece}
    {b : Block} {shown : List Char}
    (hface : face (.block b) = ({ b with body := shown } : Block).source)
    (hleft : (left.flatMap face).length = (left.flatMap Piece.source).length) (right : List Piece) :
    ((left ++ .block b :: right).flatMap face).drop
      ((left.flatMap Piece.source).length + b.bodyStart) =
        shown ++ (b.closing ++ right.flatMap face) := by
  have hstart : b.bodyStart = (b.opening ++ b.attributes ++ ['>']).length := by
    simp only [Block.bodyStart, List.length_append, List.length_singleton]
  have hshown : face (.block b) ++ right.flatMap face =
      (b.opening ++ b.attributes ++ ['>']) ++ (shown ++ (b.closing ++ right.flatMap face)) := by
    rw [hface, Block.source]
    simp only [List.append_assoc, List.cons_append, List.nil_append]
  rw [List.flatMap_append, List.flatMap_cons, ← hleft, ← List.drop_drop, List.drop_left,
    hshown, hstart, List.drop_left]

theorem length_source (b : Block) :
    b.source.length = b.bodyStart + b.body.length + b.closing.length := by
  simp only [Block.source, Block.bodyStart, List.length_append, List.length_cons]
  omega

namespace BodyAt

variable {text : List Char} {start : Nat} {b : Block} (h : BodyAt text start b)
include h

theorem mem : .block b ∈ pieces (blankComments false text) := by
  obtain ⟨left, right, hpieces, _⟩ := h.stands
  rw [hpieces]
  exact List.mem_append_right _ List.mem_cons_self

theorem wellFormed : b.WellFormed := wellFormed_of_mem_pieces h.mem

/-- The closing tag of the block comes after its body. -/
theorem closing_eq : ∃ inside, b.closing = '<' :: inside := by
  obtain ⟨inside, hclosing, _⟩ := closingTag?_angle (h.wellFormed.closing [])
  exact ⟨inside, hclosing⟩

theorem skeleton_start :
    ∃ after, (views text).skeleton.drop start = Script.skeleton b.body ++ (b.closing ++ after) := by
  obtain ⟨left, right, hpieces, rfl⟩ := h.stands
  refine ⟨right.flatMap Piece.skeleton, ?_⟩
  rw [views, hpieces]
  refine drop_bodyStart ?_ (length_flatMap_skeleton left) right
  rw [Piece.skeleton, if_pos h.javaScript]

theorem code_start :
    ∃ after, (views text).code.drop start = Script.code b.body ++ (b.closing ++ after) := by
  obtain ⟨left, right, hpieces, rfl⟩ := h.stands
  refine ⟨right.flatMap Piece.code, ?_⟩
  rw [views, hpieces]
  refine drop_bodyStart ?_ (length_flatMap_code left) right
  rw [Piece.code, if_pos h.javaScript]

/-- From a place in a body on, the skeleton shows the rest of the skeleton of the body, and what
comes after the body. -/
theorem skeleton_drop {k : Nat} (hk : k ≤ b.body.length) : (views text).skeleton.drop (start + k) =
    (Script.skeleton b.body).drop k ++ (views text).skeleton.drop (start + b.body.length) := by
  obtain ⟨after, hstart⟩ := h.skeleton_start
  have hlength : (Script.skeleton b.body).length = b.body.length := Script.length_skeleton [] b.body
  rw [← hlength] at hk ⊢
  rw [← List.drop_drop, ← List.drop_drop, hstart, List.drop_left, List.drop_append_of_le_length hk]

theorem code_drop {k : Nat} (hk : k ≤ b.body.length) : (views text).code.drop (start + k) =
    (Script.code b.body).drop k ++ (views text).code.drop (start + b.body.length) := by
  obtain ⟨after, hstart⟩ := h.code_start
  have hlength : (Script.code b.body).length = b.body.length := Script.length_code [] b.body
  rw [← hlength] at hk ⊢
  rw [← List.drop_drop, ← List.drop_drop, hstart, List.drop_left, List.drop_append_of_le_length hk]

/-- What the skeleton shows in a body is the skeleton of the body. -/
theorem skeleton_getElem? {k : Nat} (hk : k < b.body.length) :
    (views text).skeleton[start + k]? = (Script.skeleton b.body)[k]? := by
  have hlength : (Script.skeleton b.body).length = b.body.length := Script.length_skeleton [] b.body
  rw [← List.head?_drop, h.skeleton_drop (Nat.le_of_lt hk), List.head?_append_of_ne_nil,
    List.head?_drop]
  exact List.ne_nil_of_length_pos (by rw [List.length_drop]; omega)

/-- The tag after a body is visible in the skeleton. -/
theorem skeleton_end : (views text).skeleton[start + b.body.length]? = some '<' := by
  obtain ⟨after, hstart⟩ := h.skeleton_start
  obtain ⟨inside, hclosing⟩ := h.closing_eq
  have hlength : (Script.skeleton b.body).length = b.body.length := Script.length_skeleton [] b.body
  rw [← List.head?_drop, ← List.drop_drop, hstart, ← hlength, List.drop_left, hclosing]
  rfl

end BodyAt

/-- A block that begins no later is the same one or ends before. -/
theorem same_or_before (left : List Piece) {mid right right' : List Piece} {b b' : Block}
    (h : .block b :: right = mid ++ .block b' :: right') : mid = [] ∧ b = b' ∨
      (left.flatMap Piece.source).length + b.bodyStart + b.body.length ≤
        ((left ++ mid).flatMap Piece.source).length + b'.bodyStart := by
  cases mid with
  | nil => exact .inl ⟨rfl, Piece.block.inj (List.cons.inj h).1⟩
  | cons p mid =>
    obtain ⟨rfl, _⟩ := List.cons.inj h
    have hsource : Piece.source (.block b) = b.source := rfl
    have hlength := length_source b
    refine .inr ?_
    rw [List.flatMap_append, List.flatMap_cons, hsource, List.length_append, List.length_append]
    omega

theorem BodyAt.unique {text : List Char} {start start' k : Nat} {b b' : Block}
    (h : BodyAt text start b) (h' : BodyAt text start' b') (hlo : start ≤ k)
    (hhi : k < start + b.body.length) (hlo' : start' ≤ k) (hhi' : k < start' + b'.body.length) :
    start = start' ∧ b = b' := by
  obtain ⟨left, right, hpieces, rfl⟩ := h.stands
  obtain ⟨left', right', hpieces', rfl⟩ := h'.stands
  rw [hpieces] at hpieces'
  rcases List.append_eq_append_iff.1 hpieces' with ⟨mid, rfl, hmid⟩ | ⟨mid, rfl, hmid⟩
  · rcases same_or_before left hmid with ⟨rfl, rfl⟩ | hbefore
    · exact ⟨by rw [List.append_nil], rfl⟩
    · omega
  · rcases same_or_before left' hmid with ⟨rfl, rfl⟩ | hbefore
    · exact ⟨by rw [List.append_nil], rfl⟩
    · omega

theorem mem_javaScriptSpansFrom {found : List Piece} {offset : Nat} {s : Span}
    (h : s ∈ javaScriptSpansFrom offset found) :
    ∃ left b right, found = left ++ .block b :: right ∧ isJavaScript b.attributes = true ∧
      s.start = offset + (left.flatMap Piece.source).length + b.bodyStart ∧
        s.stop = s.start + b.body.length := by
  induction found generalizing offset with
  | nil => cases h
  | cons p found ih =>
    -- The piece may be the block itself; in the other cases the span is found among the later
    -- pieces.
    have later {next : Nat} (hin : s ∈ javaScriptSpansFrom next found)
      (hnext : next = offset + p.source.length) :
        ∃ left b right, p :: found = left ++ .block b :: right ∧ isJavaScript b.attributes = true ∧
          s.start = offset + (left.flatMap Piece.source).length + b.bodyStart ∧
            s.stop = s.start + b.body.length := by
      obtain ⟨left, b, right, rfl, hjs, hstart, hstop⟩ := ih hin
      refine ⟨p :: left, b, right, rfl, hjs, ?_, hstop⟩
      rw [hstart, hnext, List.flatMap_cons, List.length_append, Nat.add_assoc offset]
    cases p with
    | text c => exact later h rfl
    | block b =>
      cases hjs : isJavaScript b.attributes with
      | false =>
        rw [javaScriptSpansFrom_other _ _ hjs] at h
        exact later h rfl
      | true =>
        rw [javaScriptSpansFrom_script _ _ hjs] at h
        rcases List.mem_cons.1 h with rfl | h
        · exact ⟨[], b, found, rfl, hjs, rfl, rfl⟩
        · exact later h rfl

/-- The offsets that a first search finds are those of bodies. -/
theorem exists_bodyAt {text : List Char} {s : Span}
    (h : s ∈ javaScriptSpansFrom 0 (pieces (blankComments false text))) :
    ∃ b, BodyAt text s.start b ∧ s.stop = s.start + b.body.length := by
  obtain ⟨left, b, right, hpieces, hjs, hstart, hstop⟩ := mem_javaScriptSpansFrom h
  rw [Nat.zero_add] at hstart
  exact ⟨b, ⟨hjs, left, right, hpieces, hstart⟩, hstop⟩

end TwinNode.Markup
