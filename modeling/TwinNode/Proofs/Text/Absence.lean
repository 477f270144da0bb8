import TwinNode.Text.Spelling

namespace TwinNode.Text

/-- Two texts differ before either of them ends. -/
def clashes : List Char → List Char → Bool
  | n :: name, c :: cs => c != n || clashes name cs
  | _, _ => false

theorem clashes_append {name cs : List Char} (h : clashes name cs = true) (more : List Char) :
    clashes name (cs ++ more) = true := by
  induction name generalizing cs with
  | nil => simp [clashes] at h
  | cons n name ih =>
    cases cs with
    | nil => simp [clashes] at h
    | cons c cs =>
      simp only [clashes, List.cons_append, Bool.or_eq_true] at h ⊢
      exact h.imp id ih

theorem after?_of_clashes {name cs : List Char} (h : clashes name cs = true) :
    after? name cs = none := by
  induction name generalizing cs with
  | nil => simp [clashes] at h
  | cons n name ih =>
    cases cs with
    | nil => simp [clashes] at h
    | cons c cs =>
      by_cases hc : c = n
      · simp only [clashes, hc, bne_self_eq_false, Bool.false_or] at h
        rw [after?, if_pos hc, ih h]
      · rw [after?, if_neg hc]

/-- A spelling begins nowhere in a text, whatever comes after the text. -/
def absent (name : List Char) : List Char → Bool
  | [] => true
  | c :: cs => clashes name (c :: cs) && absent name cs

theorem absent_append {name cs ds : List Char} (h : absent name cs = true)
    (h' : absent name ds = true) :
    absent name (cs ++ ds) = true := by
  induction cs with
  | nil => exact h'
  | cons c cs ih =>
    simp only [absent, Bool.and_eq_true] at h
    simp only [absent, List.cons_append, Bool.and_eq_true]
    exact ⟨clashes_append h.1 ds, ih h.2⟩

/-- Where its first character is nowhere in a text, a spelling is absent. -/
theorem absent_of_not_mem {n : Char} {name cs : List Char} (h : n ∉ cs) :
    absent (n :: name) cs = true := by
  induction cs with
  | nil => rfl
  | cons c cs ih =>
    have hc : c ≠ n := fun hc => h (hc ▸ List.mem_cons_self)
    simp only [absent, clashes, Bool.and_eq_true, Bool.or_eq_true, bne_iff_ne]
    exact ⟨.inl hc, ih fun hm => h (List.mem_cons_of_mem c hm)⟩

theorem absent_suffix {name left right : List Char} (h : absent name (left ++ right) = true) :
    absent name right = true := by
  induction left with
  | nil => exact h
  | cons c left ih =>
    simp only [absent, List.cons_append, Bool.and_eq_true] at h
    exact ih h.2

theorem after?_of_absent {name cs : List Char} (hne : cs ≠ [])
    (h : absent name cs = true) (more : List Char) :
    after? name (cs ++ more) = none := by
  obtain ⟨c, cs, rfl⟩ := List.exists_cons_of_ne_nil hne
  simp only [absent, Bool.and_eq_true] at h
  exact after?_of_clashes (clashes_append h.1 more)

theorem after?_eq_none {name cs : List Char} (hname : name ≠ []) (h : absent name cs = true) :
    after? name cs = none := by
  cases cs with
  | nil =>
    obtain ⟨n, name, rfl⟩ := List.exists_cons_of_ne_nil hname
    rfl
  | cons c cs =>
    have := after?_of_absent (List.cons_ne_nil c cs) h []
    rwa [List.append_nil] at this

/-- A property of the characters of a text is decided along the text. It has its own instance since
a property of all characters there are can be decided too, by looking at every one of them. -/
instance (priority := 2000) decidableForallMem {p : Char → Prop}
    [DecidablePred p] {cs : List Char} :
    Decidable (∀ c ∈ cs, p c) :=
  List.decidableBAll p cs

/-- A text that is written out is the list of its characters. -/
theorem lit {cs : List Char} : (String.ofList cs).toList = cs := String.toList_ofList

theorem lit_append {text more cs ds : List Char} (h : text = cs) (h' : more = ds) :
    text ++ more = cs ++ ds := by
  rw [h, h']

theorem lit_cons {c : Char} {cs : List Char} :
    (String.ofList (c :: cs)).toList = c :: (String.ofList cs).toList := by
  rw [lit, lit]

theorem lit_split {cs ds es : List Char} (h : cs = ds ++ es) :
    (String.ofList cs).toList = (String.ofList ds).toList ++ (String.ofList es).toList := by
  rw [lit, lit, lit, h]

end TwinNode.Text
