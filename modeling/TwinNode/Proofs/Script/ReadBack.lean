import TwinNode.Proofs.Declaration.Identity
import TwinNode.Proofs.Scan.Phrase
import TwinNode.Proofs.Script.Segment

/-! The value of a literal is not kept when a script is cut; its closing delimiter is looked
up again in the skeleton. What makes this right is what can be seen there: besides
characters outside of comments and literals, only delimiters are visible, and between those
of one literal everything is blank. -/

namespace TwinNode.Script

open TwinNode.Text (isBlank)

theorem getElem?_of_drop_eq {view face after : List Char} {offset k : Nat}
    (h : view.drop offset = face ++ after) (hle : offset ≤ k) (hlt : k < offset + face.length) :
    view[k]? = face[k - offset]? := by
  have hface : (face ++ after)[k - offset]? = face[k - offset]? :=
    List.getElem?_append_left (by omega)
  rw [← hface, ← h, List.getElem?_drop]
  congr 1
  omega

theorem mem_map_blank {c : Char} {cs : List Char} (h : c ∈ cs.map blank) : isBlank c = true := by
  obtain ⟨d, _, rfl⟩ := List.mem_map.1 h
  exact isBlank_blank d

/-- A place of the skeleton, in the segment around it. -/
theorem skeleton_place {text : List Char} {k : Nat} (h : k < (skeleton text).length) :
    ∃ offset s rest, StandsAt text offset s ∧ Cut s rest ∧ offset ≤ k ∧
      k < offset + s.skeleton.length ∧
      (skeleton text)[k]? = s.skeleton[k - offset]? := by
  rw [skeleton, length_skeleton] at h
  obtain ⟨offset, s, hs, hle, hlt⟩ := exists_standsAt h
  obtain ⟨_, rest, _, hcut, _, hsk, _⟩ := hs.drop
  rw [← hcut.length_skeleton] at hlt
  exact ⟨offset, s, rest, hs, hcut, hle, hlt, getElem?_of_drop_eq hsk hle hlt⟩

theorem eq_of_getElem?_singleton {c d : Char} {n : Nat} (h : [c][n]? = some d) : n = 0 ∧ c = d := by
  cases n with
  | zero => exact ⟨rfl, Option.some.inj h⟩
  | succ n => cases h

/-- In a blanked literal the opening delimiter is visible, and what comes after its inside. -/
theorem visible_of_blanks {quote c : Char} {inside after : List Char} {n : Nat}
    (h : (quote :: (inside.map blank ++ after))[n]? = some c) (hc : isBlank c = false) :
    n = 0 ∧ c = quote ∨ ∃ m, n = inside.length + 1 + m ∧ after[m]? = some c := by
  cases n with
  | zero => exact .inl ⟨rfl, (Option.some.inj h).symm⟩
  | succ n =>
    rw [List.getElem?_cons_succ] at h
    by_cases hin : n < inside.length
    · rw [List.getElem?_append_left (by rwa [List.length_map])] at h
      rw [mem_map_blank (List.mem_of_getElem? h)] at hc
      cases hc
    · have hle := Nat.le_of_not_lt hin
      rw [List.getElem?_append_right (by rwa [List.length_map]), List.length_map] at h
      exact .inr ⟨n - inside.length, by omega, h⟩

/-- A visible character of a segment is all of it, or it delimits a literal. -/
theorem Cut.visible {s : Segment} {rest : List Char} (hcut : Cut s rest) {n : Nat} {c : Char}
    (h : s.skeleton[n]? = some c) (hc : isBlank c = false) :
    n = 0 ∧ s = .plain c ∨
      Delimits c ∧ ∃ tail closed, s = .literal c tail closed ∧
        (n = 0 ∨ closed = true ∧ n = tail.length) := by
  cases hcut with
  | plain =>
    obtain ⟨rfl, rfl⟩ := eq_of_getElem?_singleton h
    exact .inl ⟨rfl, rfl⟩
  | comment =>
    rw [mem_map_blank (List.mem_of_getElem? h)] at hc
    cases hc
  | @closed quote inside _ hd =>
    simp only [Segment.skeleton, if_true, List.dropLast_concat] at h
    rcases visible_of_blanks h hc with ⟨rfl, rfl⟩ | ⟨m, rfl, hm⟩
    · exact .inr ⟨hd, _, true, rfl, .inl rfl⟩
    · obtain ⟨rfl, rfl⟩ := eq_of_getElem?_singleton hm
      exact .inr ⟨hd, _, true, rfl,
        .inr ⟨rfl, by rw [List.length_append, List.length_singleton, Nat.add_zero]⟩⟩
  | @broken quote inside _ hd _ | @endless quote inside hd =>
    simp only [Segment.skeleton, Bool.false_eq_true, if_false] at h
    rw [← List.append_nil (inside.map blank)] at h
    rcases visible_of_blanks h hc with ⟨rfl, rfl⟩ | ⟨m, _, hm⟩
    · exact .inr ⟨hd, _, false, rfl, .inl rfl⟩
    · cases hm

/-- A visible character of the skeleton stands outside of comments and literals, or it delimits a
literal. -/
theorem visible_place {text : List Char} {k : Nat} {c : Char} (h : (skeleton text)[k]? = some c)
    (hc : isBlank c = false) :
    StandsAt text k (.plain c) ∨ Delimits c ∧ ∃ offset tail closed,
      StandsAt text offset (.literal c tail closed) ∧
        (k = offset ∨ closed = true ∧ k = offset + tail.length) := by
  obtain ⟨offset, s, rest, hs, hcut, hle, _, hget⟩ :=
    skeleton_place (List.getElem?_eq_some_iff.1 h).1
  rw [h] at hget
  obtain ⟨n, rfl⟩ := Nat.exists_eq_add_of_le hle
  rw [Nat.add_sub_cancel_left] at hget
  rcases hcut.visible hget.symm hc with ⟨rfl, rfl⟩ | ⟨hd, tail, closed, rfl, hn⟩
  · exact .inl hs
  · exact .inr ⟨hd, offset, tail, closed, hs, hn.imp (fun h => by rw [h, Nat.add_zero])
      (And.imp_right (congrArg _))⟩

/-- Between the delimiters of a literal the skeleton is blank. -/
theorem inside_blank {text tail : List Char} {offset k : Nat} {quote c : Char}
    (h : StandsAt text offset (.literal quote tail true)) (hlo : offset < k)
    (hhi : k < offset + tail.length) (hc : (skeleton text)[k]? = some c) : isBlank c = true := by
  obtain ⟨_, _, _, hcut, _, hsk, _⟩ := h.drop
  cases hcut with
  | @closed _ inside _ _ =>
    rw [List.length_append, List.length_singleton] at hhi
    have hin : k - offset - 1 < (inside.map blank).length := by
      rw [List.length_map]
      omega
    rw [getElem?_of_drop_eq hsk (by omega) (by simp [Segment.skeleton]; omega)] at hc
    simp only [Segment.skeleton, if_true, List.dropLast_concat] at hc
    obtain ⟨n, hn⟩ : ∃ n, k - offset = n + 1 := ⟨k - offset - 1, by omega⟩
    rw [hn, List.getElem?_cons_succ, List.getElem?_append_left (by omega)] at hc
    exact mem_map_blank (List.mem_of_getElem? hc)

theorem takeWhile_blanks {quote : Char} (hq : Delimits quote) (inside after : List Char) :
    (inside.map blank ++ after).takeWhile (· != quote) = inside.map blank ++
      after.takeWhile (· != quote) := by
  refine List.takeWhile_append_of_pos fun c hc => ?_
  obtain ⟨d, _, rfl⟩ := List.mem_map.1 hc
  simpa using (hq.ne_blank d).symm

theorem contains_newline_blanks (inside : List Char) :
    (inside.map blank).contains '\n' = inside.contains '\n' := by
  rw [Bool.eq_iff_iff]
  simp

/-- Where a literal is read, the skeleton shows its delimiter. -/
theorem quote_of_literal? {v : Views} {offset : Nat} {read : List Char}
    (h : v.literal? offset = some read) :
    ∃ quote, isQuote quote = true ∧ v.skeleton[offset]? = some quote := by
  unfold Views.literal? at h
  split at h
  · cases h
  · next quote rest hdrop =>
    dsimp only at h
    split at h
    · next hc =>
      simp only [Bool.and_eq_true] at hc
      refine ⟨quote, hc.1.1, ?_⟩
      rw [← List.head?_drop, hdrop]
      rfl
    · cases h

/-- What is read over a blanked inside goes on to the next delimiter that is shown. -/
theorem literal?_of_blanks {v : Views} {offset : Nat} {quote : Char}
    {inside shown written : List Char} (hq : isQuote quote = true)
    (hskeleton : v.skeleton.drop offset = quote :: (inside.map blank ++ shown))
    (hcode : v.code.drop (offset + 1) = inside ++ written) :
    let between := shown.takeWhile (· != quote)
    v.literal? offset =
      if between.length < shown.length ∧ (quote = backtick ∨ '\n' ∉ inside ∧ '\n' ∉ between) then
        some (inside ++ written.take between.length) else none := by
  have hd : Delimits quote := .inl hq
  have hinside := contains_newline_blanks inside
  simp only [List.contains_eq_mem, decide_eq_decide] at hinside
  unfold Views.literal?
  rw [hskeleton]
  dsimp only
  rw [takeWhile_blanks hd, hcode, List.length_append, List.length_append, List.length_map,
    List.take_length_add_append]
  simp only [hq, List.contains_eq_mem, List.mem_append, hinside, Bool.true_and,
    Bool.and_eq_true, Bool.or_eq_true, decide_eq_true_eq, beq_iff_eq, Bool.not_eq_true',
      decide_eq_false_iff_not, not_or, Nat.add_lt_add_iff_left]

/-- At the opening delimiter of a string or template literal its inside is read, if the literal is
closed and, unless it is a template, on one line. A literal that nothing closes is read on in what
the views show after the script. -/
theorem literal?_of_cut {v : Views} {offset : Nat} {seen rest tail shown written : List Char}
    {quote : Char} {closed : Bool} (hcut : Cut (.literal quote tail closed) rest)
    (hq : isQuote quote = true)
    (hskeleton : v.skeleton.drop offset = (Segment.literal quote tail closed).skeleton ++
      ((segments seen rest).flatMap Segment.skeleton ++ shown))
    (hcode : v.code.drop offset = (Segment.literal quote tail closed).code ++
      ((segments seen rest).flatMap Segment.code ++ written)) :
    let between := shown.takeWhile (· != quote)
    v.literal? offset =
      if closed = true then if quote = backtick ∨ '\n' ∉ tail then some tail.dropLast else none
      else if rest = [] ∧ between.length < shown.length ∧
        (quote = backtick ∨ '\n' ∉ tail ∧ '\n' ∉ between) then
        some (tail ++ written.take between.length) else none := by
  have hnl : quote ≠ '\n' := by
    rintro rfl
    revert hq
    decide
  have hinside : v.code.drop (offset + 1) = tail ++
      ((segments seen rest).flatMap Segment.code ++ written) := by
    rw [← List.drop_drop, hcode]
    rfl
  cases hcut with
  | @closed _ inside _ _ =>
    have hblanks : v.skeleton.drop offset = quote :: (inside.map blank ++
        (quote :: ((segments seen rest).flatMap Segment.skeleton ++ shown))) := by
      rw [hskeleton]
      simp [Segment.skeleton]
    rw [List.append_assoc] at hinside
    rw [literal?_of_blanks hq hblanks hinside]
    simp [Ne.symm hnl]
  | @broken _ _ rest' _ hne =>
    -- The line ends before any delimiter.
    have hblanks : v.skeleton.drop offset = quote :: (tail.map blank ++
        ('\n' :: ((segments ('\n' :: seen) rest').flatMap Segment.skeleton ++ shown))) := by
      have hfirst : next seen '\n' rest' = (.plain '\n', rest') := rfl
      rw [hskeleton, segments, hfirst]
      simp [Segment.skeleton]
    rw [literal?_of_blanks hq hblanks hinside]
    simp [hne, Ne.symm hnl]
  | endless =>
    have hblanks : v.skeleton.drop offset = quote :: (tail.map blank ++ shown) := by
      rw [hskeleton, segments]
      simp [Segment.skeleton]
    rw [segments, List.flatMap_nil, List.nil_append] at hinside
    rw [literal?_of_blanks hq hblanks hinside]
    simp

/-- In a script, a literal that is not closed is not read. -/
theorem literal?_of_standsAt {text tail : List Char} {offset : Nat} {quote : Char} {closed : Bool}
    (h : StandsAt text offset (.literal quote tail closed)) (hq : isQuote quote = true) :
    (views text).literal? offset =
      if closed = true ∧ (quote = backtick ∨ '\n' ∉ tail) then some tail.dropLast else none := by
  obtain ⟨seen, rest, _, hcut, hcode, hskeleton, _⟩ := h.drop
  rw [← List.append_nil (List.flatMap _ _)] at hcode hskeleton
  have hread := literal?_of_cut (v := views text) hcut hq hskeleton hcode
  rw [hread]
  cases closed <;> simp

/-- A string or template literal of a script begins at an offset. -/
def OpensAt (text : List Char) (offset : Nat) (quote : Char) : Prop :=
  isQuote quote = true ∧ ∃ tail closed, StandsAt text offset (.literal quote tail closed)

/-- A literal, found again from its offset alone. -/
theorem literalTail_of_standsAt {text tail : List Char} {offset : Nat}
    {delimiter : Char} {closed : Bool} (h : StandsAt text offset (.literal delimiter tail closed)) :
    ∃ rest, text.drop offset = delimiter :: (tail ++ rest) ∧
      literalTail delimiter false (text.drop (offset + 1)) = ⟨tail, closed, rest⟩ := by
  obtain ⟨_, rest, hdrop, _, _, _, hlit⟩ := h.drop
  refine ⟨rest, hdrop, ?_⟩
  rw [← List.drop_drop, hdrop]
  exact hlit delimiter tail closed rfl

/-- At its offset, a literal shows its opening delimiter. -/
theorem shown_of_standsAt {text tail : List Char} {offset : Nat} {delimiter : Char} {closed : Bool}
    (h : StandsAt text offset (.literal delimiter tail closed)) :
    (skeleton text)[offset]? = some delimiter := by
  obtain ⟨_, _, _, _, _, hsk, _⟩ := h.drop
  rw [← List.head?_drop, hsk]
  rfl

theorem offset_lt_of_standsAt {text tail : List Char} {offset : Nat}
    {delimiter : Char} {closed : Bool} (h : StandsAt text offset (.literal delimiter tail closed)) :
    offset < (skeleton text).length :=
  (List.getElem?_eq_some_iff.1 (shown_of_standsAt h)).1

/-- What is read at the opening delimiter of a literal, by its offsets in the source. -/
theorem literalAt_of_opensAt {text : List Char} {offset : Nat} {quote : Char}
    (h : OpensAt text offset quote) :
    let tail := literalTail quote false (text.drop (offset + 1))
    let stop := offset + 1 + tail.text.length
    (views text).literalAt offset =
      .ok (if tail.closed = true ∧ (quote = backtick ∨ '\n' ∉ Span.slice ⟨offset, stop⟩ text) then
        some (Span.slice ⟨offset + 1, stop - 1⟩ text) else none) := by
  obtain ⟨hq, tail, closed, h⟩ := h
  obtain ⟨rest, hdrop, htail⟩ := literalTail_of_standsAt h
  have hbody : text.drop (offset + 1) = tail ++ rest := by
    rw [← List.drop_drop, hdrop]
    rfl
  have hwhole : Span.slice ⟨offset, offset + 1 + tail.length⟩ text = quote :: tail := by
    have hlen : offset + 1 + tail.length - offset = tail.length + 1 := by omega
    rw [Span.slice, List.drop_take, hdrop, hlen]
    simp
  have hinside : Span.slice ⟨offset + 1, offset + 1 + tail.length - 1⟩ text = tail.dropLast := by
    have hlen : offset + 1 + tail.length - 1 - (offset + 1) = tail.length - 1 := by omega
    rw [Span.slice, List.drop_take, hbody, hlen, List.take_append_of_le_length (Nat.sub_le _ _),
      List.dropLast_eq_take]
  have hnl : quote ≠ '\n' := by
    rintro rfl
    revert hq
    decide
  dsimp only
  have hlt : offset < (views text).skeleton.length := offset_lt_of_standsAt h
  rw [htail, Views.literalAt, if_pos hlt, literal?_of_standsAt h hq]
  dsimp only
  rw [hwhole, hinside]
  simp [Ne.symm hnl]

section Reads

variable {view words blanks rest : List Char} {start : Nat} {sign : Char}
  (reads : Phrase.Reads (view.drop start) words sign blanks rest)
include reads

theorem getElem?_of_reads {n : Nat} (h : n < words.length + 1 + blanks.length) :
    view[start + n]? = (words ++ sign :: blanks)[n]? := by
  have hsplit : view.drop start = (words ++ sign :: blanks) ++ rest := by
    rw [List.append_assoc, List.cons_append]
    exact reads.split
  rw [getElem?_of_drop_eq hsplit (Nat.le_add_right _ _)
    (by simp only [List.length_append, List.length_cons]; omega),
    Nat.add_sub_cancel_left]

theorem sign_of_reads : view[start + words.length]? = some sign := by
  rw [getElem?_of_reads reads (by omega), List.getElem?_append_right (Nat.le_refl _), Nat.sub_self]
  rfl

theorem blank_of_reads {k : Nat} {c : Char} (hlo : start + words.length < k)
    (hhi : k < start + words.length + 1 + blanks.length) (hk : view[k]? = some c) :
    isBlank c = true := by
  obtain ⟨n, rfl⟩ : ∃ n, k = start + (words.length + 1 + n) :=
    ⟨k - start - words.length - 1, by omega⟩
  rw [getElem?_of_reads reads (by omega), List.getElem?_append_right (by omega),
    show words.length + 1 + n - words.length = n + 1 by omega, List.getElem?_cons_succ] at hk
  exact reads.blanks_blank c (List.mem_of_getElem? hk)

end Reads

/-- No literal ends at the quote after the sign of a phrase: its opening quote would have to stand
before the sign, and the sign in the literal. -/
theorem not_closing_of_reads {text words blanks rest tail : List Char}
    {start offset : Nat} {sign quote : Char}
    (reads : Phrase.Reads ((skeleton text).drop start) words sign blanks rest)
    (hv : isBlank quote = false) (hd : Delimits quote)
    (hs : StandsAt text offset (.literal quote tail true)) :
    start + words.length + 1 + blanks.length ≠ offset + tail.length := by
  intro hend
  have hsign := sign_of_reads reads
  have hopen := shown_of_standsAt hs
  have hpos : 0 < tail.length := by
    obtain ⟨_, _, _, hcut, _⟩ := hs.drop
    cases hcut
    simp
  rcases Nat.lt_trichotomy offset (start + words.length) with hlt | heq | hgt
  · have := inside_blank hs hlt (by omega) hsign
    simp [reads.sign_visible] at this
  · rw [heq, hsign] at hopen
    exact reads.sign_open (Option.some.inj hopen ▸ hd)
  · have := blank_of_reads reads hgt (by omega) hopen
    simp [hv] at this

/-- A quote after the sign of a phrase, with only blanks between them, opens a literal. -/
theorem opensAt_of_reads {text words blanks rest : List Char} {start : Nat} {sign quote : Char}
    (reads : Phrase.Reads ((skeleton text).drop start) words sign blanks rest)
    (hc : (skeleton text)[start + words.length + 1 + blanks.length]? = some quote)
    (hq : isQuote quote = true) :
    OpensAt text (start + words.length + 1 + blanks.length) quote := by
  have hv : isBlank quote = false := by
    cases hb : isBlank quote with
    | false => rfl
    | true => exact absurd (.inl hq) (Phrase.not_delimits_of_blank hb)
  rcases visible_place hc hv with hplain | ⟨hd, offset, tail, closed, hs, rfl | ⟨rfl, hend⟩⟩
  · obtain ⟨_, _, _, hcut, _⟩ := hplain.drop
    cases hcut with
    | plain hn => simp [hq] at hn
  · exact ⟨hq, tail, closed, hs⟩
  · exact absurd hend (not_closing_of_reads reads hv hd hs)

section Phrases

variable {p : Phrase} (hp : p.declaresInScripts) {text : List Char} {o : Span}
  (h : o ∈ (views text).find p)
include hp h

/-- What a phrase of scripts shows stands outside of comments and literals. -/
theorem plain_of_visible {k : Nat} {c : Char} (hlo : o.start ≤ k) (hhi : k < o.stop)
    (hc : (skeleton text)[k]? = some c) (hv : isBlank c = false) : StandsAt text k (.plain c) := by
  refine (visible_place hc hv).resolve_right fun ⟨hd, _⟩ => ?_
  obtain ⟨words, sign, blanks, rest, reads, hstop⟩ := Phrase.reads_of_mem hp h
  obtain ⟨n, rfl⟩ := Nat.exists_eq_add_of_le hlo
  have hread : (words ++ sign :: blanks)[n]? = some c :=
    (getElem?_of_reads reads (by omega)).symm.trans hc
  rcases List.mem_append.1 (List.mem_of_getElem? hread) with hm | hm
  · exact reads.words_open c hm hd
  · rcases List.mem_cons.1 hm with rfl | hm
    · exact reads.sign_open hd
    · simp [reads.blanks_blank c hm] at hv

theorem opensAt_of_quote {quote : Char} (hc : (skeleton text)[o.stop]? = some quote)
    (hq : isQuote quote = true) :
    OpensAt text o.stop quote := by
  obtain ⟨words, sign, blanks, rest, reads, hstop⟩ := Phrase.reads_of_mem hp h
  rw [hstop] at hc ⊢
  exact opensAt_of_reads reads hc hq

end Phrases

/-- A literal that is read right after a phrase of scripts is closed, and its inside is what is
read. -/
theorem standsAt_of_literalAfter {p : Phrase} (hp : p.declaresInScripts)
    {text value : List Char} {o : Span} (h : o ∈ (views text).find p)
    (hl : (views text).literalAfter? o.stop = some value) :
    ∃ quote inside, isQuote quote = true ∧
      StandsAt text o.stop (.literal quote (inside ++ [quote]) true) ∧
      value = Text.trim inside := by
  obtain ⟨written, hw, rfl⟩ := Option.map_eq_some_iff.1 hl
  obtain ⟨quote, hq, hc⟩ := quote_of_literal? hw
  obtain ⟨_, tail, closed, hs⟩ := opensAt_of_quote hp h hc hq
  rw [literal?_of_standsAt hs hq] at hw
  split at hw
  · next hclosed =>
    obtain rfl := hclosed.1
    obtain ⟨_, _, _, hcut, _⟩ := hs.drop
    cases hcut with
    | @closed _ inside _ _ =>
      rw [List.dropLast_concat] at hw
      exact ⟨quote, inside, hq, hs, congrArg _ (Option.some.inj hw).symm⟩
  · cases hw

/-- Every string or template literal is read back at its opening delimiter: its inside, if it is
closed and a template or on one line, and nothing otherwise. The phrases that declare type names
show only characters outside of comments and literals, and a quote after one opens a literal. So
every type name of a script is the trimmed inside of a literal that is closed and comes right after
such a phrase. -/
theorem literals_read_back_and_phrases_pure (text : List Char) :
    (∀ offset quote, OpensAt text offset quote →
      let tail := literalTail quote false (text.drop (offset + 1))
      let stop := offset + 1 + tail.text.length
      (views text).literalAt offset =
        .ok (if tail.closed = true ∧ (quote = backtick ∨ '\n' ∉ Span.slice ⟨offset, stop⟩ text) then
          some (Span.slice ⟨offset + 1, stop - 1⟩ text) else none)) ∧
    (∀ p : Phrase, p.declaresInScripts → ∀ o ∈ (views text).find p,
      (∀ k c, o.start ≤ k → k < o.stop → (skeleton text)[k]? = some c → isBlank c = false →
        StandsAt text k (.plain c)) ∧
      ∀ quote, (skeleton text)[o.stop]? = some quote → isQuote quote = true →
        OpensAt text o.stop quote) ∧
    ∀ settings path i, i ∈ (stubDeclarations settings path (views text)).identities ∨
        i ∈ (deviceDeclarations path (views text)).identities →
      ∃ p : Phrase, p.declaresInScripts ∧ i.role.phrase? = some p ∧ ∃ o ∈ (views text).find p,
        i.location = (views text).location o.start ∧ ∃ quote inside, isQuote quote = true ∧
          StandsAt text o.stop (.literal quote (inside ++ [quote]) true) ∧
          i.value = String.ofList (Text.trim inside) := by
  refine ⟨fun _ _ h => literalAt_of_opensAt h, fun p hp o h => ⟨?_, ?_⟩, ?_⟩
  · intro k c hlo hhi hc hv
    exact plain_of_visible hp h hlo hhi hc hv
  · intro quote hc hq
    exact opensAt_of_quote hp h hc hq
  · intro settings path i hi
    obtain ⟨hrole, o, ⟨p, hp, ho⟩, ⟨value, hv, hvalue⟩, hloc⟩ :
        (i.role = .registrationCall ∨ i.role = .staticField) ∧
          ∃ o, (views text).DeclaredAt i o := by
      rcases hi with hi | hi
      · obtain ⟨hrole, hat⟩ := declaredAt_of_stub hi
        exact ⟨.inl hrole, hat⟩
      · exact declaredAt_of_device hi
    have hdecl : p.declaresInScripts := by
      rcases hrole with hr | hr <;> rw [hr] at hp
      · exact .inl (Option.some.inj hp).symm
      · exact .inr (Option.some.inj hp).symm
    have hafter : (views text).literalAfter? o.stop = some value := by
      rcases hrole with hr | hr <;> rw [hr] at hv <;> exact hv
    obtain ⟨quote, inside, hq, hs, rfl⟩ := standsAt_of_literalAfter hdecl ho hafter
    exact ⟨p, hdecl, hp, o, ho, hloc, quote, inside, hq, hs, hvalue⟩

theorem literals_read_back_after_call :
    let text := "registerType('a')".toList
    OpensAt text 13 '\x27' ∧ (views text).literalAt 13 = .ok (some ['a']) := by
  have ho : OpensAt "registerType('a')".toList 13 '\x27' := by
    refine ⟨rfl, "a'".toList, true, "registerType(".toList.map .plain, [.plain ')'], ?_, ?_⟩
    · decide +kernel
    · decide +kernel
  have h := (literals_read_back_and_phrases_pure "registerType('a')".toList).1 13 '\x27' ho
  exact ⟨ho, h.trans (congrArg Except.ok (by decide +kernel))⟩

end TwinNode.Script
