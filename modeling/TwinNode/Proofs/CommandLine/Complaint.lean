import Mathlib.Data.List.Infix
import TwinNode.CommandLine

namespace TwinNode

open CommandLine (complaintMarkup)

namespace Console

/-- No tag stands in a text. -/
def Tagless (cs : List Char) : Prop := ∀ rest, rest <:+ cs → tagAtStart? rest = none

theorem splitAtTag?_eq_none_iff {cs : List Char} : splitAtTag? cs = none ↔ Tagless cs := by
  induction cs with
  | nil =>
    refine iff_of_true rfl fun rest hrest => ?_
    rw [List.suffix_nil.1 hrest]
    rfl
  | cons c cs ih =>
    rw [splitAtTag?]
    constructor
    · intro h rest hrest
      cases hstart : tagAtStart? (c :: cs) with
      | some tag =>
        rw [hstart] at h
        cases h
      | none =>
        rw [hstart, Option.map_eq_none_iff] at h
        rcases List.suffix_cons_iff.1 hrest with rfl | hrest
        · exact hstart
        · exact ih.1 h rest hrest
    · intro h
      rw [h _ List.suffix_rfl]
      exact Option.map_eq_none_iff.2 (ih.2 fun rest hrest => h rest
        (hrest.trans (List.suffix_cons c cs)))

instance (cs : List Char) : Decidable (Tagless cs) := decidable_of_iff _ splitAtTag?_eq_none_iff

theorem pieces_of_tagless {cs : List Char} (h : Tagless cs) : pieces cs = [.text cs] := by
  rw [pieces]
  split
  · rfl
  · next htag => cases (splitAtTag?_eq_none_iff.2 h).symm.trans htag

theorem pieces_of_tag {cs before inside rest : List Char}
    (h : splitAtTag? cs = some ⟨before, 0, inside, rest⟩) :
    pieces cs = .text before :: .text [] :: .tag (.ofInside inside) :: pieces rest := by
  rw [pieces]
  split
  · next hnone => cases h.symm.trans hnone
  · next htag =>
    obtain rfl := Option.some.inj (h.symm.trans htag)
    dsimp only
    rw [if_neg (by decide)]
    rfl

/-- Parts of a text are shown in styles that can be read. -/
def Shows (column : Nat) (opened : List OpenTag) (parts : List Piece) : Prop :=
  ∃ t, showPieces column opened parts = .ok t ∧ ∀ s ∈ t.spans, (normalStyle? s.style).isSome = true

namespace Shows

variable {column : Nat} {opened : List OpenTag} {parts : List Piece}

theorem nil (column : Nat) : Shows column [] [] := ⟨⟨[], []⟩, rfl, List.forall_mem_nil _⟩

theorem text (cs : List Char) (h : Shows (column + (shownText cs).length) opened parts) :
    Shows column opened (.text cs :: parts) := by
  obtain ⟨t, ht, hstyles⟩ := h
  refine ⟨{ t with text := shownText cs ++ t.text }, ?_, hstyles⟩
  rw [showPieces, ht]
  rfl

theorem tag {t : Tag} {others : List OpenTag} {closed : List StyledSpan}
    (hfollow : t.follow column opened = .ok (others, closed))
    (hclosed : ∀ s ∈ closed, (normalStyle? s.style).isSome = true) (h : Shows column others parts) :
    Shows column opened (.tag t :: parts) := by
  obtain ⟨shown, hshown, hstyles⟩ := h
  refine ⟨{ shown with spans := closed ++ shown.spans }, ?_, fun s hs => ?_⟩
  · rw [showPieces, hfollow]
    dsimp only [Except.bind]
    rw [hshown]
    rfl
  · exact (List.mem_append.1 hs).elim (hclosed s) (hstyles s)

end Shows

/-- A text is shown if its parts are. -/
theorem shownLines_of_shows {markup : String} (h : Shows 0 [] (pieces markup.toList)) :
    ∃ lines, shownLines markup = .ok lines := by
  obtain ⟨t, ht, hstyles⟩ := h
  have hnone : t.spans.find? (fun s => s.isDrawn t.text && (normalStyle? s.style).isNone) =
      none := by
    refine List.find?_eq_none.2 fun s hs => ?_
    simp [Option.isSome_iff_ne_none.1 (hstyles s hs)]
  unfold shownLines render
  rw [ht]
  dsimp only [Except.bind]
  unfold StyledText.draw
  rw [hnone]
  exact ⟨_, rfl⟩

section Color

variable {word : List Char}

/-- A word that is no triple of numbers can be read as a color, or it is none. -/
theorem checkColor_cases (h : argument? "rgb(" word = none) :
    checkColor word = .ok () ∨ checkColor word = .error .unknown := by
  unfold checkColor
  rw [h]
  exact ite_eq_or_eq _ _ _

theorem ofWords_singleton {name : String} (hlower : Text.lower word = word)
    (hname : String.ofList word = name) (hattribute : attribute? name = none) :
    Style.ofWords {} [word] = (checkColor word).bind fun _ => .ok { color := some word } := by
  rw [Style.ofWords.eq_def]
  simp only [hlower, hname]
  simp only [hattribute, Style.ofWords]

/-- A word in small letters that is no attribute stands for itself, whether it is a color or not. -/
theorem normalStyle?_word {name : String} (hwords : Text.words word = [word])
    (hlower : Text.lower word = word) (htrim : Text.trim word = word)
    (hname : String.ofList word = name) (hattribute : attribute? name = none)
    (htriple : argument? "rgb(" word = none) : normalStyle? word = some word := by
  unfold normalStyle?
  rw [hwords, ofWords_singleton hlower hname hattribute]
  rcases checkColor_cases htriple with h | h
  · rw [h]
    simp [Except.bind, Style.toWords, List.intercalate]
  · rw [h]
    simp [Except.bind, htrim, hlower]

end Color

def red : List Char := ['r', 'e', 'd']

theorem normalStyle?_red : normalStyle? red = some red :=
  normalStyle?_word (by rfl) (by rfl) (by rfl) (by rfl : String.ofList red = "red")
    (by rfl) (by rfl)

theorem tagStyle_of_normalStyle? {name style : List Char} (h : normalStyle? name = some style) :
    tagStyle name = .ok style := by
  unfold tagStyle
  rw [h]

theorem tagStyle_red : tagStyle red = .ok red := tagStyle_of_normalStyle? normalStyle?_red

theorem follow_red (column : Nat) :
    (Tag.ofInside red).follow column [] = .ok ([⟨column, red, none⟩], []) := by
  show (tagStyle red).map (fun style => ([OpenTag.mk column ⟨style, none⟩], [])) = _
  rw [tagStyle_red]
  rfl

theorem follow_endRed (start column : Nat) :
    (Tag.ofInside ('/' :: red)).follow column [⟨start, red, none⟩] =
      .ok ([], [⟨start, column, red⟩]) := by
  show (tagStyle red).bind _ = _
  rw [tagStyle_red]
  rfl

end Console

open Console

theorem exists_shownLines_complaint {complaint : String} (h : Tagless complaint.toList) :
    ∃ lines, shownLines (complaintMarkup complaint) = .ok lines := by
  have hopen : splitAtTag? (complaintMarkup complaint).toList =
      some ⟨[], 0, red, "Error:[/red] ".toList ++ complaint.toList⟩ := by
    have htext : (complaintMarkup complaint).toList = "[red]".toList ++
        ("Error:[/red] ".toList ++ complaint.toList) := by
      simp [complaintMarkup, styled]
    rw [htext]
    rfl
  have hclose : splitAtTag? ("Error:[/red] ".toList ++ complaint.toList) =
      some ⟨"Error:".toList, 0, '/' :: red, ' ' :: complaint.toList⟩ := by rfl
  have hrest : Tagless (' ' :: complaint.toList) := by
    intro rest hrest
    rcases List.suffix_cons_iff.1 hrest with rfl | hrest
    · rfl
    · exact h rest hrest
  have hred : ∀ start column, ∀ s ∈ [StyledSpan.mk start column red],
      (normalStyle? s.style).isSome = true :=
    fun start column => List.forall_mem_singleton.2 (by rw [normalStyle?_red]; rfl)
  apply shownLines_of_shows
  rw [pieces_of_tag hopen, pieces_of_tag hclose, pieces_of_tagless hrest]
  exact .text _ (.text _ (.tag (follow_red _) (List.forall_mem_nil _)
    (.text _ (.text _ (.tag (follow_endRed _ _) (hred _ _) (.text _ (.nil _)))))))

end TwinNode
