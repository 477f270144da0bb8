import Mathlib
import TwinNode.Proofs.Declaration.Identity
import TwinNode.Proofs.Package.Loading
import TwinNode.Proofs.Scan.Masking
import TwinNode.Proofs.Scan.Phrase
import TwinNode.Text.Split

/-! The views of a script or a markup text agree on places: at an offset, each shows the
character of the source or a space, and they break lines together. So an occurrence in the
skeleton is where its word stands in the source, and the line that is reported for a type
name is the line of that word. -/

namespace TwinNode

open TwinNode.Text (splitWhere)

/-- Every offset means one place in the three views. -/
structure Views.SamePlaces (v : Views) : Prop where
  length_code : v.code.length = v.source.length
  length_skeleton : v.skeleton.length = v.source.length
  code_shows : ∀ (i : Nat) (c : Char), v.code[i]? = some c → v.source[i]? = some c ∨ c = ' '
  skeleton_shows : ∀ (i : Nat) (c : Char), v.skeleton[i]? = some c → v.code[i]? = some c ∨ c = ' '
  code_breaks : ∀ i : Nat, v.code[i]? = some '\n' ↔ v.source[i]? = some '\n'
  skeleton_breaks : ∀ i : Nat, v.skeleton[i]? = some '\n' ↔ v.source[i]? = some '\n'

namespace MaskOf

variable {view text : List Char} (h : MaskOf view text)
include h

theorem shows {i : Nat} {c : Char} (hi : view[i]? = some c) : text[i]? = some c ∨ c = ' ' := by
  obtain ⟨written, hw, hm⟩ := h.getElem? hi
  rcases hm.same_or_space with rfl | rfl
  · exact .inl hw
  · exact .inr rfl

theorem breaks (i : Nat) : view[i]? = some '\n' ↔ text[i]? = some '\n' := by
  constructor
  · intro hi
    obtain ⟨written, hw, hm⟩ := h.getElem? hi
    rw [hw, hm.newline_iff.1 rfl]
  · intro hi
    have hlt : i < view.length := by
      rw [h.length_eq]
      exact (List.getElem?_eq_some_iff.1 hi).1
    obtain ⟨written, hw, hm⟩ := h.getElem? (List.getElem?_eq_getElem hlt)
    obtain rfl := Option.some.inj (hw.symm.trans hi)
    rw [List.getElem?_eq_getElem hlt, hm.newline_iff.2 rfl]

end MaskOf

theorem Views.Aligned.samePlaces {v : Views} (h : v.Aligned) : v.SamePlaces where
  length_code := h.code.length_eq
  length_skeleton := h.skeleton_source.length_eq
  code_shows _ _ hi := h.code.shows hi
  skeleton_shows _ _ hi := h.skeleton.shows hi
  code_breaks i := h.code.breaks i
  skeleton_breaks i := h.skeleton_source.breaks i

section Lines

variable (separates : Char → Bool)

theorem splitWhere_other {c : Char} (h : separates c = false) {cs piece : List Char}
    {pieces : List (List Char)} (hs : splitWhere separates cs = piece :: pieces) :
    splitWhere separates (c :: cs) = (c :: piece) :: pieces := by
  unfold splitWhere at hs ⊢
  rw [List.foldr_cons, hs, h]
  rfl

theorem splitWhere_append {word : List Char} (h : ∀ c ∈ word, separates c = false)
    {cs piece : List Char} {pieces : List (List Char)}
    (hs : splitWhere separates cs = piece :: pieces) :
    splitWhere separates (word ++ cs) = (word ++ piece) :: pieces := by
  induction word with
  | nil => exact hs
  | cons c word ih =>
    have hrest := ih fun d hd => h d (List.mem_cons_of_mem c hd)
    exact splitWhere_other separates (h c List.mem_cons_self) hrest

/-- A word stands in the line of a text with the given number, counted from 1, and begins at an
offset of the text. -/
def StandsOnLine (text : List Char) (offset : Nat) (word : List Char) (line : Nat) : Prop :=
  ∃ above left right below,
    splitWhere (· == '\n') text = above ++ (left ++ word ++ right) :: below ∧
      above.length + 1 = line ∧ (above.map (·.length + 1)).sum + left.length = offset

theorem standsOnLine_append {word : List Char} (hw : '\n' ∉ word) (front rest : List Char) :
    StandsOnLine (front ++ (word ++ rest)) front.length word (front.count '\n' + 1) := by
  -- On the text before the word: a line break begins a new line, and any other character shifts the
  -- word in its line.
  induction front with
  | nil =>
    obtain ⟨right, below, hs⟩ :=
      List.exists_cons_of_ne_nil (Text.splitWhere_ne_nil (· == '\n') rest)
    have hword : ∀ c ∈ word, (c == '\n') = false := fun c hc => by
      rw [beq_eq_false_iff_ne]
      rintro rfl
      exact hw hc
    exact ⟨[], [], right, below, splitWhere_append _ hword hs, rfl, rfl⟩
  | cons c front ih =>
    obtain ⟨above, left, right, below, hs, hline, hoffset⟩ := ih
    by_cases hc : c = '\n'
    · subst hc
      refine ⟨[] :: above, left, right, below, ?_, ?_, ?_⟩
      · rw [List.cons_append, Text.splitWhere_separator (by rfl), hs]
        rfl
      · rw [List.count_cons_self, List.length_cons, hline]
      · simp only [List.map_cons, List.sum_cons, List.length_nil, List.length_cons]
        omega
    · have hother : (fun d => d == '\n') c = false := beq_eq_false_iff_ne.2 hc
      have hcount : (c :: front).count '\n' = front.count '\n' := List.count_cons_of_ne hc
      rw [hcount, List.length_cons, List.cons_append]
      have hsplit : ∀ {piece : List Char} {pieces : List (List Char)},
          splitWhere (· == '\n') (front ++ (word ++ rest)) = piece :: pieces →
          splitWhere (· == '\n') (c :: (front ++ (word ++ rest))) = (c :: piece) :: pieces :=
        fun hs => splitWhere_other (· == '\n') hother hs
      cases above with
      | nil =>
        refine ⟨[], c :: left, right, below, hsplit hs, hline, ?_⟩
        simp only [List.map_nil, List.sum_nil, List.length_cons] at hoffset ⊢
        omega
      | cons first above =>
        refine ⟨(c :: first) :: above, left, right, below, hsplit hs, hline, ?_⟩
        simp only [List.map_cons, List.sum_cons, List.length_cons] at hoffset ⊢
        omega

theorem standsOnLine_of_drop {text word rest : List Char} {offset : Nat}
    (hlt : offset < text.length) (hdrop : text.drop offset = word ++ rest) (hw : '\n' ∉ word) :
    StandsOnLine text offset word ((text.take offset).count '\n' + 1) := by
  have h := standsOnLine_append hw (text.take offset) rest
  rwa [← hdrop, List.take_append_drop, List.length_take_of_le (Nat.le_of_lt hlt)] at h

end Lines

/-- The word that a role is recognised by. -/
def IdentityRole.word? (role : IdentityRole) : Option String := role.phrase?.bind Phrase.opening?

theorem IdentityRole.word?_of_phrase? {role : IdentityRole} {p : Phrase}
    (h : role.phrase? = some p) :
    ∃ word, role.word? = some word ∧ p.opening? = some word ∧
      ' ' ∉ word.toList ∧ '\n' ∉ word.toList := by
  cases role with
  | descriptorKey => cases h
  | _ =>
    obtain rfl := Option.some.inj h
    exact ⟨_, rfl, rfl, by decide +kernel, by decide +kernel⟩

/-- The word by which a type name is declared stands in the source, in the line that is reported. -/
theorem Views.DeclaredAt.standsOnLine {v : Views} {i : Identity} {o : Span} (hv : v.Aligned)
    (h : v.DeclaredAt i o) :
    ∃ word, i.role.word? = some word ∧
      StandsOnLine v.source o.start word.toList (v.lineOf o.start) := by
  obtain ⟨p, hp, ho⟩ := h.found
  obtain ⟨word, hrole, hopening, hspace, hbreak⟩ := IdentityRole.word?_of_phrase? hp
  obtain ⟨left, right, rest, hsplit, hne, hstart, hr, _⟩ := occurs_of_mem ho
  obtain ⟨more, rfl⟩ := Phrase.recognise_opening hopening hr
  have hoffset : o.start = left.length := hstart.trans (Nat.zero_add _)
  have hview : v.skeleton.drop o.start = word.toList ++ more := by
    rw [hsplit, hoffset, List.drop_left]
  obtain ⟨after, hsource⟩ := hv.skeleton_source.drop_eq_append hspace hview
  have hlt : o.start < v.source.length := by
    have := List.length_pos_iff.2 hne
    rw [← hv.skeleton_source.length_eq, hsplit, hoffset, List.length_append]
    omega
  exact ⟨word, hrole, standsOnLine_of_drop hlt hsource hbreak⟩

theorem location_inj {m n : Nat} (h : "line " ++ toString m = "line " ++ toString n) : m = n := by
  have hdigits := congrArg String.toList ((String.append_right_inj "line ").1 h)
  simp only [Nat.toString_eq_repr, Nat.toList_repr] at hdigits
  have hvalue := congrArg (Nat.ofDigitChars 10 · 0) hdigits
  simpa only [Nat.ofDigitChars_ten_toDigits] using hvalue

/-- The views of every script and every markup text agree on places, and their source is the text.
So a type name that a script or a markup artifact declares is declared at a word that stands in its
text, in the very line that is its location. -/
theorem places_kept_and_lines_named :
    (∀ text, ((Script.views text).source = text ∧ (Script.views text).SamePlaces) ∧
      (Markup.views text).source = text ∧ (Markup.views text).SamePlaces) ∧
    ∀ room settings (a : Artifact), a.Loaded room → a.kind.isNodePart = true →
      ∀ i ∈ (a.declarations settings).identities, ∃ v o word,
        a.content = .scanned v ∧ v.source = a.text ∧ v.DeclaredAt i o ∧ i.role.word? = some word ∧
        (∃ n : Nat, i.location = "line " ++ toString n) ∧
        ∀ n : Nat, i.location = "line " ++ toString n →
          StandsOnLine a.text o.start word.toList n := by
  refine ⟨fun text => ⟨⟨rfl, (Views.aligned_script text).samePlaces⟩, rfl,
    (Views.aligned_markup text).samePlaces⟩, fun room settings a ha hk i hi => ?_⟩
  obtain ⟨v, hcontent, hsource, hv, o, ho⟩ : ∃ v, a.content = .scanned v ∧
    v.source = a.text ∧ v.Aligned ∧
      ∃ o, v.DeclaredAt i o := by
    rcases isNodePart_iff.1 hk with hk | hk
    · refine ⟨_, ha.script hk, rfl, Views.aligned_script a.text, ?_⟩
      unfold Artifact.declarations at hi
      rw [ha.script hk] at hi
      rcases hk with hk | hk <;> rw [hk] at hi
      · exact (declaredAt_of_stub hi).2
      · exact (declaredAt_of_device hi).2
    · refine ⟨_, ha.markup hk, rfl, Views.aligned_markup a.text, ?_⟩
      unfold Artifact.declarations at hi
      rw [ha.markup hk, hk] at hi
      exact declaredAt_of_markup hi
  obtain ⟨word, hword, hline⟩ := ho.standsOnLine hv
  refine ⟨v, o, word, hcontent, hsource, ho, hword, ⟨_, ho.location⟩, fun n hn => ?_⟩
  rw [← location_inj (ho.location.symm.trans hn), ← hsource]
  exact hline

def secondLineStub : Artifact :=
  let text := "\nregisterType('a')".toList
  ⟨.hostStub, "n.js", text, .scanned (Script.views text)⟩

theorem lines_named_in_second_line :
    secondLineStub.Loaded 0 ∧ secondLineStub.kind.isNodePart = true ∧
      (⟨"n.js", .registrationCall, "a", "line 2"⟩ : Identity) ∈
        (secondLineStub.declarations {}).identities ∧
      ∃ o word, StandsOnLine secondLineStub.text o word 2 := by
  have hi : (⟨"n.js", .registrationCall, "a", "line 2"⟩ : Identity) ∈
      (secondLineStub.declarations {}).identities := by
    have h : (secondLineStub.declarations {}).identities = _ :=
      stubDeclarations_identities {} "n.js" _
    rw [h]
    decide +kernel
  obtain ⟨v, o, word, _, _, _, _, _, hline⟩ :=
    places_kept_and_lines_named.2 0 {} secondLineStub rfl rfl _ hi
  exact ⟨rfl, rfl, hi, o.start, word.toList, hline 2 rfl⟩

end TwinNode
