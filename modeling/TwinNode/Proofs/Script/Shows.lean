import TwinNode.Proofs.Script.Segment
import TwinNode.Scan.Views

namespace TwinNode.Script

/-- The code of a stretch is the stretch itself and its skeleton is `shown`, whatever is around
it. -/
def Shows (text shown : List Char) : Prop :=
  ∀ before rest, ∃ seen,
    (segments before (text ++ rest)).flatMap Segment.code =
      text ++ (segments seen rest).flatMap Segment.code ∧
    (segments before (text ++ rest)).flatMap Segment.skeleton =
      shown ++ (segments seen rest).flatMap Segment.skeleton

namespace Shows

theorem nil : Shows [] [] := fun before _ => ⟨before, rfl, rfl⟩

theorem append {text more shown also : List Char} (h : Shows text shown) (h' : Shows more also) :
    Shows (text ++ more) (shown ++ also) := by
  intro before rest
  obtain ⟨mid, hcode, hskeleton⟩ := h before (more ++ rest)
  obtain ⟨seen, hcode', hskeleton'⟩ := h' mid rest
  refine ⟨seen, ?_, ?_⟩
  · rw [List.append_assoc, hcode, hcode', List.append_assoc]
  · rw [List.append_assoc, hskeleton, hskeleton', List.append_assoc]

theorem plain_cons {c : Char} {text shown : List Char} (hc : ¬Delimits c) (h : Shows text shown) :
    Shows (c :: text) (c :: shown) := by
  intro before rest
  have hnext := next_plain hc before (text ++ rest)
  obtain ⟨seen, hcode, hskeleton⟩ := h (c :: before) rest
  refine ⟨seen, ?_, ?_⟩
  · rw [List.cons_append, segments, hnext]
    exact congrArg (c :: ·) hcode
  · rw [List.cons_append, segments, hnext]
    exact congrArg (c :: ·) hskeleton

theorem plain {text : List Char} (h : ∀ c ∈ text, ¬Delimits c) : Shows text text := by
  induction text with
  | nil => exact nil
  | cons c text ih =>
    exact plain_cons (h c List.mem_cons_self) (ih fun d hd => h d (List.mem_cons_of_mem c hd))

end Shows

/-- The inside of a string in double quotes on one line, without escapes. -/
def Unescaped (inside : List Char) : Prop := ∀ c ∈ inside, c ≠ '\x22' ∧ c ≠ '\\' ∧ c ≠ '\n'

theorem Shows.quoted {inside : List Char} (h : Unescaped inside) :
    Shows ('\x22' :: (inside ++ ['\x22'])) ('\x22' :: (inside.map blank ++ ['\x22'])) := by
  intro before rest
  have htext : inside ++ ['\x22'] ++ rest = inside ++ '\x22' :: rest := by simp
  have hnext : next before '\x22' (inside ++ '\x22' :: rest) =
      (.literal '\x22' (inside ++ ['\x22']) true, rest) := by
    unfold next
    rw [if_neg fun hs => absurd hs.1 (by decide), if_neg fun hs => absurd hs.1 (by decide),
      if_pos (by rfl), literalTail_harmless (by rfl) h]
  refine ⟨(Segment.literal '\x22' (inside ++ ['\x22']) true).skeleton.reverse ++ before, ?_, ?_⟩
  · rw [List.cons_append, htext, segments, hnext]
    simp [Segment.code]
  · rw [List.cons_append, htext, segments, hnext]
    simp [Segment.skeleton]

/-- A part of a script without comments. -/
inductive Part where
  | plain (text : List Char)
  | string (inside : List Char)

namespace Part

def source : Part → List Char
  | plain text => text
  | string inside => '\x22' :: (inside ++ ['\x22'])

def shown : Part → List Char
  | plain text => text
  | string inside => '\x22' :: (inside.map blank ++ ['\x22'])

/-- The part is what it looks like. -/
def Sound : Part → Prop
  | plain text => ∀ c ∈ text, ¬Delimits c
  | string inside => Unescaped inside

end Part

theorem Part.sound_lit {cs : List Char} (h : ∀ c ∈ cs, ¬Delimits c) :
    (Part.plain (String.ofList cs).toList).Sound := by
  intro c hc
  rw [String.toList_ofList] at hc
  exact h c hc

theorem Part.sound_string {cs : List Char} (h : ∀ c ∈ cs, c ≠ '\x22' ∧ c ≠ '\\' ∧ c ≠ '\n') :
    (Part.string (String.ofList cs).toList).Sound := by
  intro c hc
  rw [String.toList_ofList] at hc
  exact h c hc

theorem Part.source_lit {cs : List Char} :
    (Part.string (String.ofList cs).toList).source = '\x22' :: (cs ++ ['\x22']) := by
  rw [source, String.toList_ofList]

theorem Part.shown_lit {cs : List Char} :
    (Part.string (String.ofList cs).toList).shown = '\x22' :: (cs.map blank ++ ['\x22']) := by
  rw [shown, String.toList_ofList]

theorem shows_parts {parts : List Part} (h : ∀ p ∈ parts, p.Sound) :
    Shows (parts.flatMap Part.source) (parts.flatMap Part.shown) := by
  induction parts with
  | nil => exact Shows.nil
  | cons p parts ih =>
    rw [List.flatMap_cons, List.flatMap_cons]
    refine Shows.append ?_ (ih fun q hq => h q (List.mem_cons_of_mem p hq))
    have hp := h p List.mem_cons_self
    cases p with
    | plain text => exact Shows.plain hp
    | string inside => exact Shows.quoted hp

theorem length_shown (parts : List Part) :
    (parts.flatMap Part.shown).length = (parts.flatMap Part.source).length := by
  induction parts with
  | nil => rfl
  | cons p parts ih =>
    rw [List.flatMap_cons, List.flatMap_cons, List.length_append, List.length_append, ih]
    cases p with
    | plain text => rfl
    | string inside => simp [Part.shown, Part.source]

theorem code_eq_of_shows {text shown : List Char} (h : Shows text shown) : code text = text := by
  obtain ⟨seen, hcode, _⟩ := h [] []
  have hnil : segments seen [] = [] := by rw [segments]
  rwa [List.append_nil, hnil, List.flatMap_nil, List.append_nil] at hcode

theorem skeleton_eq_of_shows {text shown : List Char} (h : Shows text shown) :
    skeleton text = shown := by
  obtain ⟨seen, _, hskeleton⟩ := h [] []
  have hnil : segments seen [] = [] := by rw [segments]
  rwa [List.append_nil, hnil, List.flatMap_nil, List.append_nil] at hskeleton

theorem views_eq_of_shows {text shown : List Char} (h : Shows text shown) :
    views text = ⟨text, text, shown⟩ := by
  unfold views
  rw [code_eq_of_shows h, skeleton_eq_of_shows h]

end TwinNode.Script
