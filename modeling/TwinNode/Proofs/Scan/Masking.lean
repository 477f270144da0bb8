import Mathlib.Data.List.Forall2
import TwinNode.Proofs.Script.Segment
import TwinNode.Scan.Views

/-! A masked view shows a character of the text at its own place or a space there, and
breaks lines where the text does. This holds of every segment of a script and of every piece
of markup, and so of the code and the skeleton of both: an offset means one place in all
views. -/

namespace TwinNode

open TwinNode.Script (blank Segment segments)

/-- What a masked view may show for a character. -/
structure Masks (shown written : Char) : Prop where
  same_or_space : shown = written ∨ shown = ' '
  newline_iff : shown = '\n' ↔ written = '\n'

theorem Masks.refl (c : Char) : Masks c c := ⟨.inl rfl, Iff.rfl⟩

theorem Masks.blank (c : Char) : Masks (blank c) c := by
  refine ⟨?_, Script.blank_eq_newline_iff⟩
  unfold Script.blank
  split <;> simp_all

theorem Masks.trans {a b c : Char} (h : Masks a b) (h' : Masks b c) : Masks a c := by
  refine ⟨?_, h.newline_iff.trans h'.newline_iff⟩
  rcases h.same_or_space with rfl | rfl
  · exact h'.same_or_space
  · exact .inr rfl

/-- A view that shows or masks every character of a text at its place. -/
def MaskOf (view text : List Char) : Prop := List.Forall₂ Masks view text

namespace MaskOf

theorem refl (text : List Char) : MaskOf text text := List.forall₂_same.2 fun c _ => Masks.refl c

theorem blanked (text : List Char) : MaskOf (text.map blank) text :=
  List.forall₂_map_left_iff.2 (List.forall₂_same.2 fun c _ => Masks.blank c)

theorem append {v w t u : List Char} (h : MaskOf v t) (h' : MaskOf w u) :
    MaskOf (v ++ w) (t ++ u) :=
  List.rel_append h h'

theorem cons {c d : Char} {v t : List Char} (h : Masks c d) (h' : MaskOf v t) :
    MaskOf (c :: v) (d :: t) :=
  List.Forall₂.cons h h'

theorem trans {u v w : List Char} (h : MaskOf u v) (h' : MaskOf v w) : MaskOf u w := by
  induction h generalizing w with
  | nil => exact h'
  | cons hc _ ih =>
    cases h' with
    | cons hd ht => exact List.Forall₂.cons (hc.trans hd) (ih ht)

theorem flatMap {xs : List α} {f g : α → List Char} (h : ∀ x ∈ xs, MaskOf (f x) (g x)) :
    MaskOf (xs.flatMap f) (xs.flatMap g) := by
  induction xs with
  | nil => exact .nil
  | cons x xs ih =>
    rw [List.flatMap_cons, List.flatMap_cons]
    exact (h x (by simp)).append (ih fun y hy => h y (by simp [hy]))

theorem length_eq {view text : List Char} (h : MaskOf view text) : view.length = text.length :=
  List.Forall₂.length_eq h

theorem getElem? {view text : List Char} (h : MaskOf view text) {i : Nat} {shown : Char}
    (hi : view[i]? = some shown) : ∃ written, text[i]? = some written ∧ Masks shown written := by
  obtain ⟨hlt, rfl⟩ := List.getElem?_eq_some_iff.1 hi
  have hlt' : i < text.length := h.length_eq ▸ hlt
  exact ⟨text[i], List.getElem?_eq_getElem hlt', by simpa using List.Forall₂.get h hlt hlt'⟩

theorem count_newline {view text : List Char} (h : MaskOf view text) :
    view.count '\n' = text.count '\n' := by
  induction h with
  | nil => rfl
  | cons hc _ ih => simp [List.count_cons, ih, hc.newline_iff]

/-- A word without spaces stands in the text where the view shows it. -/
theorem drop_eq_append {view text word after : List Char} {i : Nat}
    (h : MaskOf view text) (hw : ' ' ∉ word) (hi : view.drop i = word ++ after) :
    ∃ rest, text.drop i = word ++ rest := by
  have hd : MaskOf (word ++ after) (text.drop i) := hi ▸ List.forall₂_drop i h
  generalize text.drop i = t at hd
  clear hi
  induction word generalizing t with
  | nil => exact ⟨t, rfl⟩
  | cons c word ih =>
    cases hd with
    | @cons _ d _ t' hc ht =>
      obtain ⟨rest, rfl⟩ := ih (fun hm => hw (by simp [hm])) t' ht
      have hcd : c = d := hc.same_or_space.resolve_right fun hs => hw (by simp [hs])
      exact ⟨rest, by rw [hcd, List.cons_append]⟩

end MaskOf

namespace Script

theorem code_maskOf_source (s : Segment) : MaskOf s.code s.source := by
  cases s with
  | plain c => exact .refl [c]
  | comment text => exact .blanked text
  | literal delimiter tail closed => exact .refl (delimiter :: tail)

theorem Cut.skeleton_maskOf_code {s : Segment} {rest : List Char} (h : Cut s rest) :
    MaskOf s.skeleton s.code := by
  cases h with
  | plain => exact .refl _
  | comment => exact .refl _
  | closed =>
    refine .cons (.refl _) ?_
    simpa using (MaskOf.blanked _).append (.refl _)
  | broken | endless => exact .cons (.refl _) (.blanked _)

theorem code_maskOf (text : List Char) : MaskOf (code text) text := by
  have h : MaskOf (code text) ((segments [] text).flatMap Segment.source) :=
    MaskOf.flatMap fun s _ => code_maskOf_source s
  rwa [segments_source] at h

theorem skeleton_maskOf_code (text : List Char) : MaskOf (skeleton text) (code text) := by
  refine MaskOf.flatMap fun s hs => ?_
  obtain ⟨left, right, hsplit⟩ := List.append_of_mem hs
  obtain ⟨_, _, _, hcut, _⟩ := segments_split hsplit
  exact hcut.skeleton_maskOf_code

end Script

namespace Markup

theorem blankComments_maskOf (inside : Bool) (cs : List Char) :
    MaskOf (blankComments inside cs) cs := by
  fun_induction blankComments inside cs with
  | case1 => exact .nil
  | case2 cs ih => exact .cons (.blank '<') ih
  | case3 inside cs hi ih =>
    exact .cons (.blank '<') (.cons (.blank '!') (.cons (.blank '-') (.cons (.blank '-') ih)))
  | case4 cs ih => exact .cons (.blank '-') (.cons (.blank '-') (.cons (.blank '>') ih))
  | case5 inside cs hi ih => exact .cons (.refl '-') ih
  | case6 inside c cs _ _ ih =>
    refine .cons ?_ ih
    split
    · exact .blank c
    · exact .refl c

/-- The body of a block is the only part of it that may look different. -/
theorem maskOf_block {b : Block} {body : List Char} (h : MaskOf body b.body) :
    MaskOf ({ b with body } : Block).source b.source := by
  refine (MaskOf.refl _).append (.cons (.refl _) (h.append (.refl _)))

theorem Piece.code_maskOf_source (p : Piece) : MaskOf p.code p.source := by
  cases p with
  | text c => exact .refl [c]
  | block b =>
    refine maskOf_block ?_
    split
    · exact Script.code_maskOf b.body
    · exact .refl b.body

theorem Piece.skeleton_maskOf_code (p : Piece) : MaskOf p.skeleton p.code := by
  cases p with
  | text c => exact .refl [c]
  | block b =>
    by_cases h : isJavaScript b.attributes = true
    · simp only [Piece.skeleton, Piece.code, h, if_true]
      exact maskOf_block (b := { b with body := Script.code b.body })
        (Script.skeleton_maskOf_code b.body)
    · simp only [Piece.skeleton, Piece.code, h]
      exact .refl _

end Markup

namespace Views

/-- Views of one text: the code masks the source and the skeleton masks the code. -/
structure Aligned (v : Views) : Prop where
  code : MaskOf v.code v.source
  skeleton : MaskOf v.skeleton v.code

theorem Aligned.skeleton_source {v : Views} (h : v.Aligned) : MaskOf v.skeleton v.source :=
  h.skeleton.trans h.code

/-- The line of an offset can be counted in the skeleton. -/
theorem Aligned.lineOf_eq {v : Views} (h : v.Aligned) (offset : Nat) :
    v.lineOf offset = (v.skeleton.take offset).count '\n' + 1 := by
  have hbreaks := MaskOf.count_newline (List.forall₂_take offset h.skeleton_source)
  unfold lineOf
  rw [hbreaks]

theorem aligned_script (text : List Char) : (Script.views text).Aligned :=
  ⟨Script.code_maskOf text, Script.skeleton_maskOf_code text⟩

theorem aligned_markup (text : List Char) : (Markup.views text).Aligned := by
  constructor
  · have h : MaskOf (Markup.views text).code
        ((Markup.pieces (Markup.blankComments false text)).flatMap Markup.Piece.source) :=
      MaskOf.flatMap fun p _ => p.code_maskOf_source
    rw [Markup.pieces_source] at h
    exact h.trans (Markup.blankComments_maskOf false text)
  · exact MaskOf.flatMap fun p _ => p.skeleton_maskOf_code

end Views

end TwinNode
