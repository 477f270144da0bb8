import Mathlib.Data.List.TakeWhile
import Mathlib.Tactic.ByContra
import TwinNode.Markup.Block
import TwinNode.Proofs.Text.Absence
import TwinNode.Proofs.Text.PlainName

/-! A block that was found ends its tag at the first angle and has no closing tag in its
body. Such a block is found again wherever it is written, and so is one that is written with
a body of this kind. The language of a block depends on the first `type` attribute of its
tag only. -/

namespace TwinNode.Markup

open TwinNode.Text

theorem blankComments_eq_self {cs : List Char} (h : '!' ∉ cs) : blankComments false cs = cs := by
  induction cs with
  | nil => rfl
  | cons c cs ih =>
    rw [List.mem_cons, not_or] at h
    have hrest := ih h.2
    unfold blankComments
    split
    · next he => cases he
    · next he =>
      rw [(List.cons.inj he).2] at h
      simp at h
    · next he =>
      obtain ⟨rfl, rfl⟩ := List.cons.inj he
      simp [hrest]
    · next he =>
      obtain ⟨rfl, rfl⟩ := List.cons.inj he
      simp [hrest]

theorem toLower_of_not_ascii {c : Char} (h : ¬c.toNat < 128) : c.toLower = c := by
  unfold Char.toLower
  refine dif_neg fun hupper => h ?_
  have hle : c.toNat ≤ 'Z'.toNat := hupper.2
  exact Nat.lt_of_le_of_lt hle (by decide)

/-- No other character than the one of a tag is compared as it. -/
theorem foldLetter_ne {c : Char} (hc : c ≠ '<') : foldLetter c ≠ '<' := by
  by_cases hascii : c.toNat < 128
  · have h := ascii_forall (p := fun d => d == '<' || foldLetter d != '<') (by decide) hascii
    simpa [hc] using h
  · unfold foldLetter
    split
    · decide
    · split
      · decide
      · rw [toLower_of_not_ascii hascii]
        exact hc

theorem absent_of_tagless {cs : List Char} (h : '<' ∉ cs) :
    absent "</script".toList (cs.map foldLetter) = true := by
  have htag : "</script".toList = '<' :: "/script".toList := lit_cons
  rw [htag]
  refine absent_of_not_mem fun hm => ?_
  obtain ⟨c, hc, he⟩ := List.mem_map.1 hm
  exact foldLetter_ne (fun hlt => h (hlt ▸ hc)) he

theorem spelled?_eq_none {name cs : List Char} (h : clashes name (cs.map foldLetter) = true)
    (more : List Char) :
    spelled? name (cs ++ more) = none := by
  induction name generalizing cs with
  | nil => simp [clashes] at h
  | cons n name ih =>
    cases cs with
    | nil => simp [clashes] at h
    | cons c cs =>
      rw [List.cons_append, spelled?]
      split
      · next hc =>
        simp only [List.map_cons, clashes, hc, bne_self_eq_false, Bool.false_or] at h
        rw [ih h]
        rfl
      · rfl

theorem spelled?_self {name : List Char} (h : ∀ c ∈ name, foldLetter c = c) (rest : List Char) :
    spelled? name (name ++ rest) = some (name, rest) := by
  induction name with
  | nil => rfl
  | cons c name ih =>
    rw [List.cons_append, spelled?, if_pos (h c List.mem_cons_self),
      ih fun d hd => h d (List.mem_cons_of_mem c hd)]
    rfl

theorem closingTag_eq : "</script>".toList = "</script".toList ++ ['>'] := by
  have hend : ">".toList = ['>'] := lit
  rw [← hend]
  exact lit_split rfl

theorem closingTag?_self (rest : List Char) :
    closingTag? ("</script>".toList ++ rest) = some ("</script>".toList, rest) := by
  have hblank : isBlank '>' = false := by decide
  unfold closingTag?
  rw [closingTag_eq, List.append_assoc, spelled?_self (by decide),
    Option.bind_some, List.singleton_append]
  simp only [List.dropWhile_cons, List.takeWhile_cons, hblank, Bool.false_eq_true,
    if_false, List.append_nil]

theorem closingTag?_eq_none {cs : List Char}
    (h : clashes "</script".toList (cs.map foldLetter) = true) (more : List Char) :
    closingTag? (cs ++ more) = none := by
  unfold closingTag?
  rw [spelled?_eq_none h]
  rfl

theorem untilClosingTag?_of_absent {body : List Char}
    (h : absent "</script".toList (body.map foldLetter) = true) :
    untilClosingTag? body = none := by
  induction body with
  | nil => rfl
  | cons c body ih =>
    simp only [List.map_cons, absent, Bool.and_eq_true] at h
    have hnone := @closingTag?_eq_none (c :: body) h.1 []
    rw [List.append_nil] at hnone
    rw [untilClosingTag?, hnone, ih h.2]
    rfl

theorem pieces_of_block? {cs rest : List Char} {b : Block} (hne : cs ≠ [])
    (h : block? cs = some (b, rest)) :
    pieces cs = .block b :: pieces rest := by
  obtain ⟨c, cs, rfl⟩ := List.exists_cons_of_ne_nil hne
  rw [pieces]
  split
  · next found after hb =>
    obtain ⟨rfl, rfl⟩ := Prod.mk.inj (Option.some.inj (h.symm.trans hb))
    rfl
  · next hb =>
    rw [h] at hb
    cases hb

theorem pieces_of_block?_none {c : Char} {cs : List Char} (h : block? (c :: cs) = none) :
    pieces (c :: cs) = .text c :: pieces cs := by
  rw [pieces]
  split
  · next hb =>
    rw [h] at hb
    cases hb
  · rfl

theorem Block.source_append (b : Block) (rest : List Char) :
    b.source ++ rest = b.opening ++ (b.attributes ++ '>' :: (b.body ++ (b.closing ++ rest))) := by
  simp [Block.source]

theorem spelled?_append {name cs : List Char} {split : List Char × List Char}
    (h : spelled? name cs = some split) (more : List Char) :
    spelled? name (split.1 ++ more) = some (split.1, more) := by
  induction name generalizing cs split with
  | nil =>
    obtain rfl := Option.some.inj h
    rfl
  | cons n name ih =>
    cases cs with
    | nil => cases h
    | cons c cs =>
      rw [spelled?] at h
      split at h
      · next hc =>
        obtain ⟨s, hs, rfl⟩ := Option.map_eq_some_iff.1 h
        rw [List.cons_append, spelled?, if_pos hc, ih hs]
        rfl
      · cases h

theorem map_foldLetter_of_spelled? {name cs : List Char} {split : List Char × List Char}
    (h : spelled? name cs = some split) : split.1.map foldLetter = name := by
  induction name generalizing cs split with
  | nil =>
    obtain rfl := Option.some.inj h
    rfl
  | cons n name ih =>
    cases cs with
    | nil => cases h
    | cons c cs =>
      rw [spelled?] at h
      split at h
      · next hc =>
        obtain ⟨s, hs, rfl⟩ := Option.map_eq_some_iff.1 h
        rw [List.map_cons, hc, ih hs]
      · cases h

/-- A tag begins with its one angle. -/
theorem cons_of_spelled? {name cs : List Char} (hname : '<' ∉ name) {split : List Char × List Char}
    (h : spelled? ('<' :: name) cs = some split) : ∃ rest, split.1 = '<' :: rest ∧ '<' ∉ rest := by
  have hmap := map_foldLetter_of_spelled? h
  obtain ⟨c, rest, hsplit⟩ : ∃ c rest, split.1 = c :: rest := by
    cases hs : split.1 with
    | nil =>
      rw [hs] at hmap
      cases hmap
    | cons c rest => exact ⟨c, rest, rfl⟩
  rw [hsplit, List.map_cons, List.cons.injEq] at hmap
  have hc : c = '<' := by
    by_contra hne
    exact foldLetter_ne hne hmap.1
  refine ⟨rest, hc ▸ hsplit, fun hin => hname ?_⟩
  rw [← hmap.2]
  exact List.mem_map.2 ⟨'<', hin, by decide⟩

theorem closingTag?_append {cs tag rest : List Char} (h : closingTag? cs = some (tag, rest))
    (more : List Char) :
    closingTag? (tag ++ more) = some (tag, more) := by
  obtain ⟨name, hname, h⟩ := Option.bind_eq_some_iff.1 h
  split at h
  · obtain ⟨rfl, rfl⟩ := Prod.mk.inj (Option.some.inj h)
    have hblanks : ∀ c ∈ name.2.takeWhile isBlank, isBlank c = true :=
      fun c hc => List.mem_takeWhile_imp hc
    have hend : isBlank '>' = false := by decide
    unfold closingTag?
    rw [List.append_assoc, List.append_assoc, spelled?_append hname, Option.bind_some]
    dsimp only
    rw [List.dropWhile_append_of_pos hblanks, List.takeWhile_append_of_pos hblanks]
    simp [hend]
  · cases h

theorem closingTag?_angle {cs tag rest : List Char} (h : closingTag? cs = some (tag, rest)) :
    ∃ inside, tag = '<' :: inside ∧ '<' ∉ inside := by
  obtain ⟨name, hname, h⟩ := Option.bind_eq_some_iff.1 h
  split at h
  · obtain ⟨rfl, rfl⟩ := Prod.mk.inj (Option.some.inj h)
    have htag : "</script".toList = '<' :: "/script".toList := lit_cons
    rw [htag] at hname
    obtain ⟨inside, hinside, hangle⟩ := cons_of_spelled? (by decide) hname
    have hblank : '<' ∉ name.2.takeWhile isBlank :=
      fun hin => absurd (List.mem_takeWhile_imp hin) (by decide)
    refine ⟨inside ++ name.2.takeWhile isBlank ++ ['>'], by simp [hinside], ?_⟩
    simp [hangle, hblank]
  · cases h

/-- A closing tag that begins before an angle ends before it. -/
theorem closingTag?_of_append {cs more tag rest : List Char} (hne : cs ≠ [])
    (hmore : more.head? = some '<') (h : closingTag? (cs ++ more) = some (tag, rest)) :
    ∃ rest', closingTag? cs = some (tag, rest') := by
  have hsource : tag ++ rest = cs ++ more := closingTag?_source h
  obtain ⟨inside, htag, hangle⟩ := closingTag?_angle h
  rcases List.append_eq_append_iff.1 hsource with ⟨mid, hcs, _⟩ | ⟨mid, hmid, hrest⟩
  · exact ⟨mid, hcs ▸ closingTag?_append h mid⟩
  · cases mid with
    | nil =>
      refine ⟨[], ?_⟩
      have hself := closingTag?_append h []
      rw [List.append_nil] at hself hmid
      rwa [← hmid]
    | cons c mid =>
      exfalso
      obtain ⟨d, cs, rfl⟩ := List.exists_cons_of_ne_nil hne
      rw [hrest, List.cons_append, List.head?_cons, Option.some.injEq] at hmore
      rw [htag, List.cons_append, List.cons.injEq] at hmid
      exact hangle (by simp [hmid.2, hmore])

/-- Without a closing tag in it, a text reaches to the closing tag after it. -/
theorem untilClosingTag?_append {body : List Char} (h : untilClosingTag? body = none)
    {tag : List Char} (htag : ∀ more, closingTag? (tag ++ more) = some (tag, more))
    (rest : List Char) :
    untilClosingTag? (body ++ (tag ++ rest)) = some (body, tag, rest) := by
  obtain ⟨inside, rfl, _⟩ := closingTag?_angle (htag [])
  induction body with
  | nil =>
    have hfirst := htag rest
    rw [List.nil_append]
    rw [List.cons_append] at hfirst ⊢
    rw [untilClosingTag?, hfirst]
  | cons c body ih =>
    rw [untilClosingTag?] at h
    split at h
    · cases h
    · next hnone =>
      have hrest := ih (Option.map_eq_none_iff.1 h)
      -- A closing tag that begins in the body would end before the angle of the tag, and so lie in
      -- the body.
      have hlater : closingTag? (c :: (body ++ ('<' :: inside ++ rest))) = none := by
        by_contra hsome
        obtain ⟨split, hsplit⟩ := Option.ne_none_iff_exists'.1 hsome
        obtain ⟨_, hin⟩ := closingTag?_of_append (List.cons_ne_nil c body) rfl hsplit
        rw [hnone] at hin
        cases hin
      rw [List.cons_append, untilClosingTag?, hlater, hrest]
      rfl

theorem untilClosingTag?_eq_none {cs : List Char} {split : List Char × List Char × List Char}
    (h : untilClosingTag? cs = some split) :
    untilClosingTag? split.1 = none ∧ ∀ more, closingTag? (split.2.1 ++ more) =
      some (split.2.1, more) := by
  induction cs generalizing split with
  | nil => cases h
  | cons c cs ih =>
    rw [untilClosingTag?] at h
    split at h
    · next tag rest ht =>
      obtain rfl := Option.some.inj h
      exact ⟨rfl, closingTag?_append ht⟩
    · next hnone =>
      obtain ⟨s, hs, rfl⟩ := Option.map_eq_some_iff.1 h
      obtain ⟨hbody, htag⟩ := ih hs
      refine ⟨?_, htag⟩
      -- A closing tag in the body would have been one in the whole text, too.
      have hfirst : closingTag? (c :: s.1) = none := by
        by_contra hsome
        obtain ⟨⟨tag, rest⟩, htag⟩ := Option.ne_none_iff_exists'.1 hsome
        have hlonger := closingTag?_append htag (rest ++ (s.2.1 ++ s.2.2))
        rw [← List.append_assoc, closingTag?_source htag, List.cons_append, ← List.append_assoc s.1,
          untilClosingTag?_source hs, hnone] at hlonger
        cases hlonger
      show untilClosingTag? (c :: s.1) = none
      rw [untilClosingTag?, hfirst, hbody]
      rfl

/-- A block that is found wherever it is written: its tag ends at the first angle, and there is no
closing tag in its body. -/
structure Block.WellFormed (b : Block) : Prop where
  opening : ∀ more, spelled? "<script".toList (b.opening ++ more) = some (b.opening, more)
  word : (b.attributes ++ ['>']).head?.any isWord = false
  attributes : '>' ∉ b.attributes
  body : untilClosingTag? b.body = none
  closing : ∀ more, closingTag? (b.closing ++ more) = some (b.closing, more)

theorem wellFormed_of_block? {cs : List Char} {found : Block × List Char}
    (h : block? cs = some found) :
    found.1.WellFormed := by
  obtain ⟨tag, htag, h⟩ := Option.bind_eq_some_iff.1 h
  split at h
  · cases h
  · next hword =>
    split at h
    · cases h
    · next d afterTag hd =>
      obtain ⟨split, hsplit, rfl⟩ := Option.map_eq_some_iff.1 h
      obtain ⟨hbody, hclosing⟩ := untilClosingTag?_eq_none hsplit
      have hend : d = '>' := by
        have := List.head?_dropWhile_not (· != '>') tag.2
        simpa [hd] using this
      have hattributes : '>' ∉ tag.2.takeWhile (· != '>') :=
        fun hin => by simpa using List.mem_takeWhile_imp hin
      refine ⟨spelled?_append htag, ?_, hattributes, hbody, hclosing⟩
      have hsource := List.takeWhile_append_dropWhile (p := (· != '>')) (l := tag.2)
      rw [hd, hend] at hsource
      dsimp only
      rw [← hsource] at hword
      cases hcs : tag.2.takeWhile (· != '>') with
      | nil => decide
      | cons c rest =>
        rw [hcs] at hword
        simpa using hword

/-- The first angle that ends a tag. -/
theorem splitAtEnd {cs : List Char} (h : '>' ∉ cs) (rest : List Char) :
    (cs ++ '>' :: rest).dropWhile (· != '>') = '>' :: rest ∧
      (cs ++ '>' :: rest).takeWhile (· != '>') = cs := by
  have hcs : ∀ c ∈ cs, (c != '>') = true := fun c hc => by
    rw [bne_iff_ne]
    rintro rfl
    exact h hc
  rw [List.dropWhile_append_of_pos hcs, List.takeWhile_append_of_pos hcs]
  simp

theorem Block.WellFormed.block? {b : Block} (h : b.WellFormed) (rest : List Char) :
    block? (b.source ++ rest) = some (b, rest) := by
  have hword : (b.attributes ++ '>' :: (b.body ++ (b.closing ++ rest))).head?.any isWord =
      false := by
    rw [← h.word]
    cases b.attributes <;> rfl
  obtain ⟨hdrop, htake⟩ := splitAtEnd h.attributes (b.body ++ (b.closing ++ rest))
  unfold Markup.block?
  rw [Block.source_append, h.opening, Option.bind_some]
  dsimp only
  rw [hword, if_neg Bool.false_ne_true, hdrop, htake]
  dsimp only
  rw [untilClosingTag?_append h.body h.closing]
  rfl

theorem pieces_wellFormed {b : Block} (h : b.WellFormed) (rest : List Char) :
    pieces (b.source ++ rest) = .block b :: pieces rest :=
  pieces_of_block? (by simp [Block.source]) (h.block? rest)

def Block.written (attributes body : List Char) : Block :=
  ⟨"<script".toList, attributes, body, "</script>".toList⟩

theorem wellFormed_written {attributes body : List Char}
    (hword : attributes.head?.any isWord = false) (hend : '>' ∉ attributes)
    (hbody : untilClosingTag? body = none) : (Block.written attributes body).WellFormed := by
  refine ⟨spelled?_self (by decide), ?_, hend, hbody, closingTag?_self⟩
  cases attributes with
  | nil => exact (show isWord '>' = false by decide)
  | cons c attributes => exact hword

theorem pieces_written {attributes body : List Char} (hword : attributes.head?.any isWord = false)
    (hend : '>' ∉ attributes) (hbody : absent "</script".toList (body.map foldLetter) = true)
    (rest : List Char) :
    pieces ((Block.written attributes body).source ++ rest) =
      .block (Block.written attributes body) :: pieces rest :=
  pieces_wellFormed (wellFormed_written hword hend (untilClosingTag?_of_absent hbody)) rest

theorem pieces_text {c : Char} (hc : foldLetter c ≠ '<') (rest : List Char) :
    pieces (c :: rest) = .text c :: pieces rest := by
  have hnone : block? (c :: rest) = none := by
    have htag : "<script".toList = '<' :: "script".toList := lit_cons
    have hclash : clashes "<script".toList ([c].map foldLetter) = true := by
      rw [htag, List.map_singleton, clashes, bne_iff_ne.2 hc, Bool.true_or]
    have hspelled : spelled? "<script".toList ([c] ++ rest) = none := spelled?_eq_none hclash rest
    unfold block?
    rw [← List.singleton_append, hspelled]
    rfl
  exact pieces_of_block?_none hnone

/-- A value that can stand without quotes. -/
def Bare (value : List Char) : Prop :=
  ∀ c ∈ value, (c == '\x22' || c == '\x27' || isBlank c || c == '>') = false

/-- The type of a block is the value of its first attribute, if this is called `type`. -/
theorem typeValue?_first {value : List Char} (hv : Bare value)
    (hne : value ≠ []) (rest : List Char) :
    typeValue? none (" type=\x22".toList ++ (value ++ '\x22' :: rest)) = some value := by
  have hsplit : " type=\x22".toList = [' '] ++ ("type".toList ++ ['=', '\x22']) := by
    rw [show " type=\x22".toList = _ from lit, show "type".toList = _ from lit]
    rfl
  obtain ⟨more, hmore⟩ : ∃ more, more = '=' :: '\x22' :: (value ++ '\x22' :: rest) := ⟨_, rfl⟩
  have htext : " type=\x22".toList ++ (value ++ '\x22' :: rest) =
      ' ' :: ("type".toList ++ more) := by
    rw [hsplit, hmore]
    simp only [List.append_assoc, List.cons_append, List.nil_append]
  have hspace : typeValueAt? none (' ' :: ("type".toList ++ more)) = none := by
    unfold typeValueAt?
    rw [List.head?_cons, if_neg (by decide)]
  have hhead : ("type".toList ++ more).head? = some 't' := by
    rw [show "type".toList = 't' :: "ype".toList from lit_cons]
    rfl
  have hequals : isBlank '=' = false := by decide
  have hquote : isBlank '\x22' = false := by decide
  have hbare : ∀ c ∈ value, (!(c == '\x22' || c == '\x27' || isBlank c || c == '>')) = true :=
    fun c hc => by
    rw [hv c hc]
    rfl
  have htype : typeValueAt? (some ' ') ("type".toList ++ more) = some value := by
    unfold typeValueAt?
    rw [hhead, if_pos (by decide), spelled?_self (by decide), Option.bind_some, hmore]
    simp only [List.dropWhile_cons, hequals, hquote, Bool.false_eq_true, if_false,
      List.takeWhile_append_of_pos hbare]
    simp [hne]
  obtain ⟨cs, hcs⟩ : ∃ cs, "type".toList ++ more = 't' :: cs := by
    rw [show "type".toList = 't' :: "ype".toList from lit_cons]
    exact ⟨_, rfl⟩
  rw [htext, typeValue?, hspace, Option.none_or, hcs, typeValue?, ← hcs, htype, Option.some_or]

end TwinNode.Markup
