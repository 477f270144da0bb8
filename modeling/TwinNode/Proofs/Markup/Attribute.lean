import TwinNode.Proofs.Markup.Block
import TwinNode.Proofs.Scan.Window

/-! The language of a block is looked up in the text of its attributes, not in the
attributes. This finds the value of a `type` attribute, but also that of a `data-type`,
since a word begins after the hyphen, and a type that is spelled inside of another value.
Where no attribute looks like that, the attribute `type` decides. -/

namespace TwinNode.Markup

open TwinNode.Text

/-! ### A type in a text -/

/-- The text up to a quote, a blank or the end of the tag. -/
def bareWord (cs : List Char) : List Char :=
  cs.takeWhile fun c => !(c == '\x22' || c == '\x27' || isBlank c || c == '>')

def unquoted : List Char → List Char
  | [] => []
  | q :: cs => if q == '\x22' || q == '\x27' then cs else q :: cs

/-- The word that a text begins with, if it begins with one. -/
def word? (cs : List Char) : Option (List Char) :=
  if (bareWord cs).isEmpty then none else some (bareWord cs)

/-- What is assigned to a name that ends here, quoted or not. -/
def assigned? (cs : List Char) : Option (List Char) :=
  (after? ['='] (trimLeft cs)).bind fun rest => word? (unquoted (trimLeft rest))

theorem typeValueAt?_eq (before : Option Char) (cs : List Char) : typeValueAt? before cs =
    if isBoundary before cs.head? then (spelled? "type".toList cs).bind fun name =>
      assigned? name.2 else none := by
  unfold typeValueAt? assigned? trimLeft
  congr
  funext name
  split
  · next rest hrest =>
    simp only [hrest, after?, if_true, Option.bind_some]
    cases rest.dropWhile isBlank with
    | nil => rfl
    | cons q inner =>
      dsimp only [unquoted, word?, bareWord]
      split <;> rfl
  · next hne =>
    cases hcs : name.2.dropWhile isBlank with
    | nil => rfl
    | cons c rest =>
      have hc : c ≠ '=' := fun h => hne rest (h ▸ hcs)
      simp [after?, hc]

theorem typeValueAt?_other {c : Char} (h : foldLetter c ≠ 't')
    (before : Option Char) (cs : List Char) :
    typeValueAt? before (c :: cs) = none := by
  have htype : "type".toList = 't' :: "ype".toList := lit_cons
  rw [typeValueAt?_eq, htype, spelled?, if_neg h]
  split <;> rfl

/-- Characters that no type begins with are passed over. -/
theorem typeValue?_skip {gap : List Char} (h : ∀ c ∈ gap, foldLetter c ≠ 't')
    (before : Option Char) (cs : List Char) :
    typeValue? before (gap ++ cs) = typeValue? (gap.getLast?.or before) cs := by
  induction gap generalizing before with
  | nil => rfl
  | cons c gap ih =>
    rw [List.cons_append, typeValue?, typeValueAt?_other (h c List.mem_cons_self), Option.none_or,
      ih fun d hd => h d (List.mem_cons_of_mem c hd), getLast?_cons_or]

/-! ### Inside of a value -/

theorem spelled?_sign {name : List Char} {sign : Char} (h : foldLetter sign ∉ name)
    (cs rest : List Char) :
    spelled? name (cs ++ sign :: rest) = (spelled? name cs).map fun split =>
      (split.1, split.2 ++ sign :: rest) := by
  induction name generalizing cs with
  | nil => rfl
  | cons n name ih =>
    rw [List.mem_cons, not_or] at h
    cases cs with
    | nil => simp [spelled?, h.1]
    | cons c cs =>
      by_cases hc : foldLetter c = n
      · simp only [List.cons_append, spelled?, hc, if_true, ih h.2, Option.map_map]
        rfl
      · simp [spelled?, hc]

/-- The text of a value has no quotes, and the tag does not end in it. -/
def IsValue (cs : List Char) : Prop := ∀ c ∈ cs, c ≠ '\x22' ∧ c ≠ '\x27' ∧ c ≠ '>'

theorem IsValue.tail {c : Char} {cs : List Char} (h : IsValue (c :: cs)) : IsValue cs :=
  fun d hd => h d (.tail c hd)

theorem bareWord_quote (cs rest : List Char) : bareWord (cs ++ '\x22' :: rest) = bareWord cs := by
  unfold bareWord
  induction cs with
  | nil => simp
  | cons c cs ih => simp only [List.cons_append, List.takeWhile_cons, ih]

theorem bareWord_of_blank {rest : List Char} (h : rest.head?.all isBlank = true) :
    bareWord rest = [] := by
  cases rest with
  | nil => rfl
  | cons c rest =>
    have hc : isBlank c = true := h
    simp [bareWord, hc]

/-- The quote that closes a value ends what is assigned in it. -/
theorem assigned?_quote {cs rest : List Char} (hcs : IsValue cs)
    (hrest : rest.head?.all isBlank = true) :
    assigned? (cs ++ '\x22' :: rest) = assigned? cs := by
  have hquote : isBlank '\x22' = false := by decide
  unfold assigned?
  rw [trimLeft_sign rest hquote, after?_sign rest (by decide)]
  cases h : after? ['='] (trimLeft cs) with
  | none => rfl
  | some after =>
    rw [Option.map_some, Option.bind_some, Option.bind_some, trimLeft_sign rest hquote]
    cases hword : trimLeft after with
    | nil =>
      have hunquoted : unquoted ('\x22' :: rest) = rest := rfl
      rw [List.nil_append, hunquoted, word?, bareWord_of_blank hrest]
      rfl
    | cons c inner =>
      have hafter : c ∈ after := (List.dropWhile_sublist _).subset (hword ▸ List.mem_cons_self)
      have htrim : c ∈ trimLeft cs := by
        rw [after?_eq_some_iff.1 h]
        exact List.mem_append_right _ hafter
      obtain ⟨hdouble, hsingle, -⟩ := hcs c ((List.dropWhile_sublist _).subset htrim)
      have hunquoted : ∀ more, unquoted (c :: more) = c :: more := by
        intro more
        simp [unquoted, hdouble, hsingle]
      rw [List.cons_append, hunquoted, hunquoted, word?, word?, ← List.cons_append, bareWord_quote]

/-- The types that are found from a value on are those in the value, then those after it. -/
theorem typeValue?_value {value rest : List Char} (hvalue : IsValue value)
    (hrest : rest.head?.all isBlank = true) (before : Option Char) :
    typeValue? before (value ++ '\x22' :: rest) =
      (typeValue? before value).or (typeValue? (some '\x22') rest) := by
  induction value generalizing before with
  | nil =>
    have hquote : foldLetter '\x22' ≠ 't' := by decide
    simp only [List.nil_append, typeValue?, typeValueAt?_other hquote, Option.none_or]
  | cons c cs ih =>
    have hhere : typeValueAt? before (c :: cs ++ '\x22' :: rest) =
        typeValueAt? before (c :: cs) := by
      rw [typeValueAt?_eq, typeValueAt?_eq, spelled?_sign (by decide)]
      cases hspelled : spelled? "type".toList (c :: cs) with
      | none => rfl
      | some name =>
        have hname : IsValue name.2 := by
          intro d hd
          refine hvalue d ?_
          rw [← spelled?_source hspelled]
          exact List.mem_append_right _ hd
        simp only [Option.map_some, Option.bind_some, assigned?_quote hname hrest]
        rfl
    rw [List.cons_append, typeValue?, ← List.cons_append, hhere, ih hvalue.tail,
      typeValue?, Option.or_assoc]

/-! ### At the end of a name -/

theorem isBlank_of_word {c : Char} (h : isWord c = true) : isBlank c = false := by
  by_cases hascii : c.toNat < 128
  · have hall := ascii_forall (p := fun d => !isWord d || !isBlank d) (by decide) hascii
    simpa [h] using hall
  · have hapart : ∀ word ∈ letterRanges ++ numericRanges, ∀ blank ∈ blankRanges, blank.2 < word.1 ∨
        word.2 < blank.1 := by
      decide +kernel
    have hword : inRanges (letterRanges ++ numericRanges) c = true := by
      unfold isWord isAlphanumeric at h
      rw [if_neg hascii, Bool.or_eq_true, beq_iff_eq] at h
      rcases h with h | rfl
      · rwa [inRanges, List.any_append]
      · exact absurd (by decide) hascii
    obtain ⟨word, hmem, hfirst, hlast⟩ := inRanges_iff.1 hword
    rw [Bool.eq_false_iff]
    intro hblank
    obtain ⟨blank, hmem', hfirst', hlast'⟩ := inRanges_iff.1 hblank
    have := hapart word hmem blank hmem'
    omega

theorem isWord_of_letter {c : Char} (h : isLetter c = true) : isWord c = true := by
  unfold isLetter at h
  unfold isWord isAlphanumeric
  split at h
  · next hascii => simp [hascii, Char.isAlphanum, h]
  · next hascii => simp [hascii, h]

/-- The letters and hyphens that names are made of. -/
def IsName (cs : List Char) : Prop := ∀ c ∈ cs, isLetter c = true ∨ c = '-'

theorem IsName.tail {c : Char} {cs : List Char} (h : IsName (c :: cs)) : IsName cs :=
  fun d hd => h d (.tail c hd)

/-- A name or a part of it says `type`, in letters of any case. -/
def SaysType (cs : List Char) : Prop := cs.map Char.toLower = "type".toList

instance (cs : List Char) : Decidable (SaysType cs) := inferInstanceAs (Decidable (_ = _))

theorem foldLetter_eq_iff {n : Char} (hn : n ∈ "type".toList) (c : Char) : foldLetter c = n ↔
    c.toLower = n := by
  by_cases hc : c ∈ ['ſ', 'ı', 'İ']
  · have hnone : ∀ d ∈ ['ſ', 'ı', 'İ'], ∀ n ∈ "type".toList, ¬(foldLetter d = n) ∧
        ¬(d.toLower = n) := by decide
    obtain ⟨hfold, hlower⟩ := hnone c hc n hn
    exact iff_of_false hfold hlower
  · simp only [List.mem_cons, List.not_mem_nil, or_false, not_or] at hc
    rw [foldLetter, if_neg hc.1, if_neg (not_or.2 hc.2)]

theorem map_foldLetter_iff {cs : List Char} : cs.map foldLetter = "type".toList ↔ SaysType cs := by
  have hmap : ∀ {name : List Char}, (∀ n ∈ name, n ∈ "type".toList) → ∀ cs : List Char,
      cs.map foldLetter = name ↔ cs.map Char.toLower = name := by
    intro name hname cs
    induction name generalizing cs with
    | nil => simp
    | cons n name ih =>
      cases cs with
      | nil => simp
      | cons c cs =>
        obtain ⟨hn, hname⟩ := List.forall_mem_cons.1 hname
        simp only [List.map_cons, List.cons.injEq, foldLetter_eq_iff hn, ih hname]
  exact hmap (fun _ => id) cs

theorem spelled?_map_self (cs rest : List Char) :
    spelled? (cs.map foldLetter) (cs ++ rest) = some (cs, rest) := by
  induction cs with
  | nil => rfl
  | cons c cs ih => simp [spelled?, ih]

/-- The value up to its first blank, if it does not begin with one. -/
def firstWord? (value : List Char) : Option (List Char) :=
  if value.head?.all isBlank then none else some (value.takeWhile fun c => !isBlank c)

theorem bareWord_value {value : List Char} (h : IsValue value) :
    bareWord value = value.takeWhile fun c => !isBlank c := by
  induction value with
  | nil => rfl
  | cons c cs ih =>
    obtain ⟨hdouble, hsingle, hend⟩ := h c List.mem_cons_self
    have hrest := ih h.tail
    cases hc : isBlank c with
    | true => simp [bareWord, hc]
    | false => simpa [bareWord, hc, hdouble, hsingle, hend] using hrest

theorem assigned?_value {value : List Char} (hvalue : IsValue value) (rest : List Char) :
    assigned? ('=' :: '\x22' :: (value ++ '\x22' :: rest)) = firstWord? value := by
  have hassigned : assigned? ('=' :: '\x22' :: (value ++ '\x22' :: rest)) =
      word? (value ++ '\x22' :: rest) := rfl
  rw [hassigned, word?, bareWord_quote, bareWord_value hvalue, firstWord?]
  cases value with
  | nil => rfl
  | cons c cs => cases hc : isBlank c <;> simp [hc]

theorem assigned?_name {c : Char} (h : isLetter c = true ∨ c = '-') (cs : List Char) :
    assigned? (c :: cs) = none := by
  have hc : isBlank c = false ∧ c ≠ '=' := by
    rcases h with h | rfl
    · refine ⟨isBlank_of_word (isWord_of_letter h), ?_⟩
      rintro rfl
      exact absurd h (by decide)
    · decide
  simp [assigned?, trimLeft, after?, hc]

/-- What is left of a name is taken for a type if it says so, no word goes on with it, and a value
follows. -/
theorem typeValueAt?_name {c : Char} {cs value : List Char} (hname : IsName (c :: cs))
    (hvalue : IsValue value) (before : Option Char) (rest : List Char) :
    typeValueAt? before (c :: cs ++ '=' :: '\x22' :: (value ++ '\x22' :: rest)) =
      if before.any isWord = false ∧ SaysType (c :: cs) then firstWord? value else none := by
  rw [typeValueAt?_eq]
  by_cases hsays : SaysType (c :: cs)
  · have hc : isWord c = true := by
      rcases hname c List.mem_cons_self with hc | rfl
      · exact isWord_of_letter hc
      · exact absurd (List.head_eq_of_cons_eq hsays) (by decide)
    have hspelled := spelled?_map_self (c :: cs) ('=' :: '\x22' :: (value ++ '\x22' :: rest))
    rw [map_foldLetter_iff.2 hsays] at hspelled
    rw [hspelled, Option.bind_some, assigned?_value hvalue, List.cons_append, List.head?_cons]
    simp [isBoundary, hc, hsays]
  · have hnone :
      ((spelled? "type".toList (c :: cs ++ '=' :: '\x22' :: (value ++ '\x22' :: rest))).bind
        fun name => assigned? name.2) = none := by
      rw [spelled?_sign (by decide)]
      cases hspelled : spelled? "type".toList (c :: cs) with
      | none => rfl
      | some split =>
        obtain ⟨part, after⟩ := split
        have hsource := spelled?_source hspelled
        have hpart := map_foldLetter_of_spelled? hspelled
        cases after with
        | nil =>
          simp only [List.append_nil] at hsource
          exact absurd (map_foldLetter_iff.1 (hsource ▸ hpart)) hsays
        | cons d after =>
          refine assigned?_name (hname d ?_) _
          rw [← hsource]
          exact List.mem_append_right _ List.mem_cons_self
    rw [hnone, ite_self, if_neg fun h => hsays h.2]

def lastPart (name : List Char) : List Char := (name.reverse.takeWhile (· != '-')).reverse

theorem takeWhile_dash_eq_self_iff {cs : List Char} : cs.reverse.takeWhile (· != '-') = cs.reverse ↔
    '-' ∉ cs := by
  rw [List.takeWhile_eq_self_iff]
  simp only [List.mem_reverse, bne_iff_ne]
  exact ⟨fun h hin => h '-' hin rfl, fun h d hd hdash => h (hdash ▸ hd)⟩

theorem lastPart_eq_self {cs : List Char} (h : '-' ∉ cs) : lastPart cs = cs := by
  rw [lastPart, takeWhile_dash_eq_self_iff.2 h, List.reverse_reverse]

theorem lastPart_cons (c : Char) (cs : List Char) :
    lastPart (c :: cs) = if '-' ∈ cs then lastPart cs else if c = '-' then cs else c :: cs := by
  unfold lastPart
  rw [List.reverse_cons, List.takeWhile_append]
  by_cases hin : '-' ∈ cs
  · have hlength : (cs.reverse.takeWhile (· != '-')).length ≠ cs.reverse.length := fun hlength =>
      takeWhile_dash_eq_self_iff.1 ((List.takeWhile_prefix _).eq_of_length hlength) hin
    rw [if_neg hlength, if_pos hin]
  · rw [takeWhile_dash_eq_self_iff.2 hin, if_pos rfl, if_neg hin]
    by_cases hc : c = '-' <;> simp [hc]

theorem SaysType.dash_not_mem {cs : List Char} (h : SaysType cs) : '-' ∉ cs := by
  intro hin
  have hdash : '-'.toLower ∈ "type".toList := h ▸ List.mem_map_of_mem hin
  exact absurd hdash (by decide)

/-- In a name only the last part can be taken for a type, and only where no word goes on with it. -/
theorem typeValue?_name {name value : List Char} (hname : IsName name) (hvalue : IsValue value)
    (before : Option Char) (rest : List Char) :
    typeValue? before (name ++ '=' :: '\x22' :: (value ++ '\x22' :: rest)) =
      (if SaysType (lastPart name) ∧ (before.any isWord = false ∨ '-' ∈ name) then firstWord? value
        else none).or (typeValue? (some '\x22') (value ++ '\x22' :: rest)) := by
  -- On the name from its beginning: where a hyphen is still to come, what begins here is not the
  -- last part.
  induction name generalizing before with
  | nil =>
    have hgap : ∀ c ∈ ['=', '\x22'], foldLetter c ≠ 't' := by decide
    have hsays : ¬SaysType (lastPart []) := by decide
    rw [if_neg fun h => hsays h.1, Option.none_or]
    exact typeValue?_skip hgap before (value ++ '\x22' :: rest)
  | cons c cs ih =>
    rw [List.cons_append, typeValue?, ← List.cons_append, typeValueAt?_name hname hvalue,
      ih hname.tail, lastPart_cons, ← Option.or_assoc]
    congr 1
    by_cases hin : '-' ∈ cs
    · have hsays : ¬SaysType (c :: cs) := fun h => h.dash_not_mem (.tail c hin)
      simp [hin, hsays]
    · have hpart := lastPart_eq_self hin
      rcases hname c List.mem_cons_self with hc | rfl
      · have hne : c ≠ '-' := by
          rintro rfl
          exact absurd hc (by decide)
        simp [hin, hpart, isWord_of_letter hc, hne, hne.symm, and_comm]
      · have hsays : ¬SaysType ('-' :: cs) := fun h => h.dash_not_mem List.mem_cons_self
        have hdash : isWord '-' = false := by decide
        simp [hin, hpart, hsays, hdash]

/-! ### Attributes -/

/-- An attribute with a quoted value. -/
structure Attribute where
  name : List Char
  value : List Char
  isName : IsName name
  isValue : IsValue value

namespace Attribute

def source (a : Attribute) : List Char := a.name ++ '=' :: '\x22' :: (a.value ++ ['\x22'])

/-- The type that the attribute gives, if it is called `type`. -/
def type? (a : Attribute) : Option (List Char) :=
  if SaysType a.name then firstWord? a.value else none

/-- The type that is found in the text of the attribute. -/
def spelledType? (a : Attribute) : Option (List Char) :=
  (if SaysType (lastPart a.name) then firstWord? a.value else none).or
    (typeValue? (some '\x22') a.value)

end Attribute

/-- A text is attributes with blanks around them and between any two. -/
inductive Attributed : List Char → List Attribute → Prop
  | nil {gap : List Char} (hgap : ∀ c ∈ gap, isBlank c = true) : Attributed gap []
  | cons {gap rest : List Char} {a : Attribute} {attributes : List Attribute}
      (hgap : ∀ c ∈ gap, isBlank c = true) (hrest : rest.head?.all isBlank = true)
      (h : Attributed rest attributes) :
      Attributed (gap ++ (a.source ++ rest)) (a :: attributes)

/-- The letter that types begin with is a word character, so that no blank is taken for it. -/
theorem isWord_of_foldLetter {c : Char} (h : foldLetter c = 't') : isWord c = true := by
  have hlower : c.toLower = 't' := (foldLetter_eq_iff (by decide) c).1 h
  by_cases hascii : c.toNat < 128
  · have hall := ascii_forall (p := fun d => d.toLower != 't' || isWord d) (by decide) hascii
    simpa [hlower] using hall
  · rw [toLower_of_not_ascii hascii] at hlower
    exact absurd (by rw [hlower]; decide) hascii

theorem foldLetter_of_blank {c : Char} (h : isBlank c = true) : foldLetter c ≠ 't' := by
  intro hfold
  rw [isBlank_of_word (isWord_of_foldLetter hfold)] at h
  cases h

theorem isWord_of_blank {c : Char} (h : isBlank c = true) : isWord c = false := by
  rw [Bool.eq_false_iff]
  intro hword
  rw [isBlank_of_word hword] at h
  cases h

theorem typeValue?_gap {gap : List Char} (hgap : ∀ c ∈ gap, isBlank c = true) {before : Option Char}
    (hbefore : before.any isWord = false) (rest : List Char) :
    ∃ before', before'.any isWord = false ∧
    typeValue? before (gap ++ rest) = typeValue? before' rest := by
  refine ⟨gap.getLast?.or before, ?_,
    typeValue?_skip (fun c hc => foldLetter_of_blank (hgap c hc)) before rest⟩
  cases hlast : gap.getLast? with
  | none => exact hbefore
  | some c => exact isWord_of_blank (hgap c (List.mem_of_getLast? hlast))

/-- The first attribute whose text looks like a type is found. -/
theorem typeValue?_attributed {text : List Char} {attributes : List Attribute}
    (h : Attributed text attributes) {before : Option Char} (hbefore : before.any isWord = false) :
    typeValue? before text = attributes.findSome? Attribute.spelledType? := by
  -- The character before is left open, since it is a quote for all attributes but the first.
  induction h generalizing before with
  | @nil gap hgap =>
    obtain ⟨_, _, hskip⟩ := typeValue?_gap hgap hbefore []
    rwa [List.append_nil] at hskip
  | @cons gap rest a attributes hgap hrest h ih =>
    obtain ⟨before', hbefore', hskip⟩ := typeValue?_gap hgap hbefore (a.source ++ rest)
    have hquote : (some '\x22').any isWord = false := by decide
    have hsource : a.source ++ rest = a.name ++ '=' :: '\x22' :: (a.value ++ '\x22' :: rest) := by
      simp [Attribute.source]
    have hfirst : (a :: attributes).findSome? Attribute.spelledType? =
        a.spelledType?.or (attributes.findSome? Attribute.spelledType?) := by
      rw [List.findSome?_cons]
      cases a.spelledType? <;> rfl
    rw [hskip, hsource, typeValue?_name a.isName a.isValue,
      typeValue?_value a.isValue hrest, ih hquote, ← Option.or_assoc,
        hfirst, Attribute.spelledType?]
    simp [hbefore']

/-! ### The type of a block -/

/-- A type is assigned in a text: the word `type`, with nothing before it that makes a longer word,
and what is not blank after an equals sign. -/
def SpellsType (text : List Char) : Prop :=
  ∃ front word gap gap' c rest, text = front ++ (word ++ (gap ++ '=' :: (gap' ++ c :: rest))) ∧
    front.getLast?.any isWord = false ∧ SaysType word ∧ (∀ d ∈ gap, isBlank d = true) ∧
      (∀ d ∈ gap', isBlank d = true) ∧
      isBlank c = false

theorem split_of_assigned? {cs word : List Char} (h : assigned? cs = some word) :
    ∃ gap gap' c rest, cs = gap ++ '=' :: (gap' ++ c :: rest) ∧ (∀ d ∈ gap, isBlank d = true) ∧
      (∀ d ∈ gap', isBlank d = true) ∧ isBlank c = false := by
  obtain ⟨after, hafter, hword⟩ := Option.bind_eq_some_iff.1 h
  obtain ⟨gap, hgap, hcs⟩ := trimLeft_split cs
  obtain ⟨gap', hgap', hsplit⟩ := trimLeft_split after
  cases hvalue : trimLeft after with
  | nil =>
    rw [hvalue] at hword
    cases hword
  | cons c rest =>
    have hc := List.head?_dropWhile_not isBlank after
    rw [show after.dropWhile isBlank = c :: rest from hvalue] at hc
    refine ⟨gap, gap', c, rest, ?_, hgap, hgap', by simpa using hc⟩
    rw [← hvalue, ← hsplit]
    rwa [after?_eq_some_iff.1 hafter] at hcs

theorem split_of_typeValue? {before : Option Char} {cs found : List Char}
    (h : typeValue? before cs = some found) :
    ∃ front rest, cs = front ++ rest ∧ typeValueAt? (front.getLast?.or before) rest =
      some found := by
  induction cs generalizing before with
  | nil => cases h
  | cons c cs ih =>
    rcases Option.or_eq_some_iff.1 h with h | ⟨_, h⟩
    · exact ⟨[], c :: cs, rfl, h⟩
    · obtain ⟨front, rest, rfl, hfound⟩ := ih h
      refine ⟨c :: front, rest, rfl, ?_⟩
      rwa [getLast?_cons_or]

theorem split_of_typeValueAt? {before : Option Char} {cs found : List Char}
    (h : typeValueAt? before cs = some found) :
    before.any isWord = false ∧ ∃ word after, cs = word ++ after ∧ SaysType word ∧
      assigned? after = some found := by
  rw [typeValueAt?_eq] at h
  split at h
  · next hboundary =>
    obtain ⟨⟨word, after⟩, hspelled, hassigned⟩ := Option.bind_eq_some_iff.1 h
    have hsays := map_foldLetter_of_spelled? hspelled
    obtain rfl := spelled?_source hspelled
    refine ⟨?_, word, after, rfl, map_foldLetter_iff.1 hsays, hassigned⟩
    cases word with
    | nil => cases hsays
    | cons c word =>
      have hc : isWord c = true := isWord_of_foldLetter (List.head_eq_of_cons_eq hsays)
      simpa [isBoundary, hc] using hboundary
  · cases h

/-- What is found in a value is a type that is spelled there. -/
theorem typeValue?_eq_none {value : List Char} (h : ¬SpellsType value) :
    typeValue? (some '\x22') value = none := by
  rw [Option.eq_none_iff_forall_ne_some]
  intro found hfound
  obtain ⟨front, rest, rfl, hat⟩ := split_of_typeValue? hfound
  obtain ⟨hbefore, word, after, rfl, hsays, hassigned⟩ := split_of_typeValueAt? hat
  obtain ⟨gap, gap', c, more, rfl, hgap, hgap', hc⟩ := split_of_assigned? hassigned
  refine h ⟨front, word, gap, gap', c, more, rfl, ?_, hsays, hgap, hgap', hc⟩
  cases hlast : front.getLast? with
  | none => rfl
  | some d => rwa [hlast, Option.some_or] at hbefore

/-- No other attribute looks like a type: neither the last part of a longer name nor a value. -/
def Attribute.Plain (a : Attribute) : Prop :=
  (SaysType (lastPart a.name) → SaysType a.name) ∧ ¬SpellsType a.value

theorem Attribute.Plain.spelledType?_eq {a : Attribute} (h : a.Plain) :
    a.spelledType? = a.type? := by
  have hlast : SaysType (lastPart a.name) ↔ SaysType a.name := by
    refine ⟨h.1, fun hsays => ?_⟩
    rwa [lastPart_eq_self hsays.dash_not_mem]
  rw [spelledType?, type?, typeValue?_eq_none h.2, Option.or_none]
  simp only [hlast]

theorem findSome?_plain {attributes : List Attribute} (h : ∀ a ∈ attributes, a.Plain) :
    attributes.findSome? Attribute.spelledType? = attributes.findSome? Attribute.type? := by
  induction attributes with
  | nil => rfl
  | cons a attributes ih =>
    obtain ⟨ha, hrest⟩ := List.forall_mem_cons.1 h
    rw [List.findSome?_cons, List.findSome?_cons, ha.spelledType?_eq, ih hrest]

/-- The language of a block is decided by the first attribute whose text looks like a type, and
hence by the attribute `type` wherever no other attribute looks like that. -/
theorem isJavaScript_attributed {text : List Char} {attributes : List Attribute}
    (h : Attributed text attributes) :
    (isJavaScript text = true ↔
      ∀ found, attributes.findSome? Attribute.spelledType? = some found →
        lower found ∈ javaScriptTypes) ∧
    ((∀ a ∈ attributes, a.Plain) → (isJavaScript text = true ↔
      ∀ found, attributes.findSome? Attribute.type? = some found →
        lower found ∈ javaScriptTypes)) := by
  have hspelled : isJavaScript text = true ↔
      ∀ found, attributes.findSome? Attribute.spelledType? = some found →
        lower found ∈ javaScriptTypes := by
    rw [isJavaScript, typeValue?_attributed h rfl]
    cases attributes.findSome? Attribute.spelledType? <;> simp
  refine ⟨hspelled, fun hplain => ?_⟩
  rw [hspelled, findSome?_plain hplain]

theorem not_spellsType {value : List Char} (h : '=' ∉ value) : ¬SpellsType value := by
  rintro ⟨front, word, gap, gap', c, rest, rfl, -⟩
  simp at h

def writtenAttributes (attributes : List Attribute) : List Char :=
  attributes.flatMap fun a => ' ' :: a.source

theorem attributed_written (attributes : List Attribute) :
    Attributed (writtenAttributes attributes) attributes := by
  have hspace : ∀ c ∈ [' '], isBlank c = true := by decide
  induction attributes with
  | nil => exact .nil (List.forall_mem_nil _)
  | cons a attributes ih =>
    have hrest : (writtenAttributes attributes).head?.all isBlank = true := by
      cases attributes <;> rfl
    exact .cons hspace hrest ih

def templateAttributes : List Attribute :=
  [⟨"id".toList, "a".toList, by unfold IsName; decide, by unfold IsValue; decide⟩,
    ⟨"Type".toList, "text/html b".toList, by unfold IsName; decide, by unfold IsValue; decide⟩]

theorem isJavaScript_attributed_template :
    Attributed (writtenAttributes templateAttributes) templateAttributes ∧
      (∀ a ∈ templateAttributes, a.Plain) ∧
      isJavaScript (writtenAttributes templateAttributes) = false := by
  have hattributed := attributed_written templateAttributes
  have hplain : ∀ a ∈ templateAttributes, a.Plain := by
    simp only [templateAttributes, List.forall_mem_cons]
    exact ⟨⟨by decide, not_spellsType (by decide)⟩, ⟨by decide, not_spellsType (by decide)⟩,
      List.forall_mem_nil _⟩
  refine ⟨hattributed, hplain, ?_⟩
  rw [Bool.eq_false_iff, Ne, (isJavaScript_attributed hattributed).2 hplain]
  intro h
  exact absurd (h "text/html".toList (by decide)) (by decide)

/-- An attribute that is not called `type`, but ends in it. -/
def dataType : Attribute :=
  ⟨"data-type".toList, "text/plain".toList, by unfold IsName; decide, by unfold IsValue; decide⟩

/-- A block without a type is taken for something else than JavaScript. -/
theorem dataType_decides : " data-type=\x22text/plain\x22".toList = writtenAttributes [dataType] ∧
    Attributed (writtenAttributes [dataType]) [dataType] ∧
      [dataType].findSome? Attribute.type? = none ∧
      isJavaScript (writtenAttributes [dataType]) = false :=
  ⟨by decide, attributed_written _, by decide, by decide⟩

end TwinNode.Markup
