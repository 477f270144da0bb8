import TwinNode.Proofs.Scan.Phrase
import TwinNode.Proofs.Text.Absence
import TwinNode.Proofs.Text.PlainName

namespace TwinNode

open TwinNode.Text

namespace Phrase

/-- The words of which a phrase has one. -/
def words : Phrase → List String
  | registerCall => ["registerType"]
  | staticType | staticBlock => ["static"]
  | defaultExport => ["export"]
  | importStatement => ["import"]
  | moduleCall => ["require", "import"]
  | moduleFrom => ["from", "import"]
  | templateName => ["data-template-name"]
  | helpName => ["data-help-name"]

theorem wordStart?_eq_none {name : String} {before : Option Char} {cs : List Char}
    (h : after? name.toList cs = none) : wordStart? name before cs = none := by
  unfold wordStart?
  split
  · exact h
  · rfl

theorem statementImport?_eq_none {before : Option Char} {cs : List Char}
    (h : absent "import".toList cs = true) : statementImport? before cs = none := by
  have indented : ∀ left right : List Char, cs = left ++ right →
      after? "import".toList (right.dropWhile fun c => c == ' ' || c == '\t') = none := by
    rintro left right rfl
    have hr := absent_suffix h
    rw [← List.takeWhile_append_dropWhile (p := fun c => c == ' ' || c == '\t') (l := right)] at hr
    exact after?_eq_none (by decide) (absent_suffix hr)
  unfold statementImport?
  rw [Option.or_eq_none_iff]
  constructor
  · split
    · exact indented [] cs rfl
    · rfl
  · split
    · next c rest =>
      split
      · exact indented [c] rest rfl
      · rfl
    · rfl

/-- Where none of its words is, a phrase does not begin. -/
theorem recognise_eq_none {p : Phrase} {before : Option Char} {cs : List Char}
    (h : ∀ w ∈ p.words, absent w.toList cs = true) : p.recognise before cs = none := by
  have start : ∀ {w : String}, w ∈ p.words → w.toList ≠ [] →
      wordStart? w before cs = none := fun hw hne =>
    wordStart?_eq_none (after?_eq_none hne (h _ hw))
  cases p with
  | importStatement =>
    have hi : statementImport? before cs = none :=
      statementImport?_eq_none (h "import" List.mem_cons_self)
    simp only [recognise, hi, bind, Option.bind]
  | moduleCall =>
    have hr := start (w := "require") (by simp [words]) (by decide)
    have hi := start (w := "import") (by simp [words]) (by decide)
    simp only [recognise, hr, hi, bind, Option.bind, Option.or]
  | moduleFrom =>
    have hf := start (w := "from") (by simp [words]) (by decide)
    have hi : statementImport? before cs = none :=
      statementImport?_eq_none (h "import" (by simp [words]))
    simp only [recognise, hf, hi, bind, Option.bind, Option.or]
  | registerCall | staticType | staticBlock | defaultExport =>
    have hw := start (List.mem_cons_self) (by decide)
    simp only [recognise, hw, bind, Option.bind]
  | templateName | helpName =>
    have hw := start (List.mem_cons_self) (by decide)
    simp only [recognise, attribute?, hw, bind, Option.bind]

theorem occurrences_eq_nil {p : Phrase} {cs : List Char}
    (h : ∀ w ∈ p.words, absent w.toList cs = true) :
    occurrences p.recognise cs = [] := by
  refine occurrencesFrom_eq_nil ?_ none 0
  rintro left right rfl _ before
  rw [List.append_nil]
  exact recognise_eq_none fun w hw => absent_suffix (h w hw)

/-- A phrase with one word begins nowhere in a text without this word, whatever comes next. -/
theorem silent_of_absent {p : Phrase} {word : String} (hp : p.opening? = some word) {cs : List Char}
    (h : absent word.toList cs = true) (after : List Char) : Silent p.recognise cs after := by
  rintro left right rfl hne before
  have hnone := after?_of_absent hne (absent_suffix h) after
  cases hr : p.recognise before (right ++ after) with
  | none => rfl
  | some rest =>
    obtain ⟨more, hmore⟩ := recognise_opening hp hr
    rw [after?_eq_some_iff.2 hmore] at hnone
    cases hnone

/-- The sign that a phrase has after its word. -/
def sign? : Phrase → Option Char
  | registerCall => some '('
  | templateName | helpName => some '='
  | _ => none

theorem blanksThen?_of_head {name : String} {c : Char} {cs : List Char} (hc : isBlank c = false)
    (hn : name.toList.head?.all (· != c) = true) (hne : name.toList ≠ []) :
    blanksThen? name (c :: cs) = none := by
  unfold blanksThen? trimLeft
  rw [List.dropWhile_cons, hc]
  obtain ⟨n, more, hname⟩ := List.exists_cons_of_ne_nil hne
  rw [hname] at hn ⊢
  have hcn : c ≠ n := fun he => by simp [he] at hn
  simp [after?, hcn]

theorem blanksThen?_blank {name : String} {c : Char} (hc : isBlank c = true) (cs : List Char) :
    blanksThen? name (c :: cs) = blanksThen? name cs := by
  unfold blanksThen? trimLeft
  rw [List.dropWhile_cons, hc]
  rfl

theorem wordStart?_bind_eq_none {name : String} {before : Option Char} {rest : List Char}
    {f : List Char → Option (List Char)} (h : f rest = none) :
    (wordStart? name before (name.toList ++ rest)).bind f = none := by
  unfold wordStart?
  split
  · rw [after?_eq_some_iff.2 rfl, Option.bind_some, h]
  · rfl

theorem staticType_ne_block (before : Option Char) (cs : List Char) :
    staticType.recognise before ("static".toList ++ ([' ', '\x7b'] ++ cs)) = none := by
  refine wordStart?_bind_eq_none ?_
  have hblank : followedBy? isBlank ([' ', '\x7b'] ++ cs) = some ([' ', '\x7b'] ++ cs) := rfl
  have htype : blanksThen? "type" ([' ', '\x7b'] ++ cs) = none := by
    rw [List.cons_append, blanksThen?_blank (by decide)]
    exact blanksThen?_of_head (by decide) (by decide) (by decide)
  simp only [hblank, htype, bind, Option.bind]

theorem staticBlock_ne_type (before : Option Char) (cs : List Char) :
    staticBlock.recognise before ("static".toList ++ (" type = ".toList ++ cs)) = none := by
  refine wordStart?_bind_eq_none ?_
  rw [show " type = ".toList = _ from lit, List.cons_append, blanksThen?_blank (by decide)]
  exact blanksThen?_of_head (by decide) (by decide) (by decide)

theorem recognise_sign {p : Phrase} {sign : Char} (hp : p.sign? = some sign) {before : Option Char}
    {cs rest : List Char} (h : p.recognise before cs = some rest) :
    ∃ word more, p.opening? = some word ∧ cs = word.toList ++ more ∧
      (blanksThen? (String.ofList [sign]) more).isSome = true := by
  have read : ∀ {word : String} {f : List Char → Option (List Char)},
      ((wordStart? word before cs).bind fun more =>
        (blanksThen? (String.ofList [sign]) more).bind f) = some rest →
      ∃ more, cs = word.toList ++ more ∧
        (blanksThen? (String.ofList [sign]) more).isSome = true := by
    intro word f hf
    obtain ⟨more, hw, hs⟩ := Option.bind_eq_some_iff.1 hf
    obtain ⟨after, ha, _⟩ := Option.bind_eq_some_iff.1 hs
    exact ⟨more, wordStart?_eq_some hw, by rw [ha]; rfl⟩
  cases p <;> simp only [sign?, reduceCtorEq, Option.some.injEq] at hp <;> subst hp <;>
    exact ⟨_, (read h).choose, rfl, (read h).choose_spec⟩

/-- A plain name in quotes is no phrase with a sign, even if it spells the word of one. -/
theorem silent_of_plain {p : Phrase} {sign : Char} (hp : p.sign? = some sign) {name : List Char}
    (h : ∀ c ∈ name, isPlain c = true) (after : List Char) :
    Silent p.recognise name ('\x22' :: after) := by
  rintro left right rfl hne before
  cases hr : p.recognise before (right ++ '\x22' :: after) with
  | none => rfl
  | some rest =>
    exfalso
    obtain ⟨word, more, hword, hsplit, hsign⟩ := recognise_sign hp hr
    have hquote : '\x22' ∉ word.toList ∧ isPlain sign = false ∧ sign ≠ '\x22' := by
      cases p <;> simp only [sign?, reduceCtorEq, Option.some.injEq] at hp <;> subst hp <;>
        obtain rfl := Option.some.inj hword <;> decide
    have hnone : blanksThen? (String.ofList [sign]) more = none := by
      -- The word lies within the name, so what comes next is plain or the quote.
      rcases List.append_eq_append_iff.1 hsplit with ⟨inner, hw, hmore⟩ | ⟨inner, hright, rfl⟩
      · cases inner with
        | nil =>
          rw [← List.nil_append more, ← hmore]
          exact blanksThen?_of_head (by decide) (by simpa using hquote.2.2) (by simp)
        | cons d inner =>
          obtain rfl := (List.cons.inj hmore).1
          exact absurd (hw ▸ List.mem_append_right _ List.mem_cons_self) hquote.1
      · cases inner with
        | nil => exact blanksThen?_of_head (by decide) (by simpa using hquote.2.2) (by simp)
        | cons d inner =>
          have hd : isPlain d = true := h d (by simp [hright])
          have hne' := plain_ne hd hquote.2.1
          exact blanksThen?_of_head (isBlank_of_plain hd) (by simpa using Ne.symm hne') (by simp)
    rw [hnone] at hsign
    cases hsign

theorem wordStart?_append {name : String} {before : Option Char} {rest : List Char}
    (hb : isBoundary before (name.toList ++ rest).head? = true) :
    wordStart? name before (name.toList ++ rest) = some rest := by
  unfold wordStart?
  rw [if_pos hb, after?_eq_some_iff.2 rfl]

theorem trimLeft_of_head {c : Char} (hc : isBlank c = false) (cs : List Char) :
    trimLeft (c :: cs) = c :: cs := by
  unfold trimLeft
  rw [List.dropWhile_cons, hc]
  rfl

theorem recognise_registerCall {before : Option Char} {c : Char} {cs : List Char}
    (hb : isBoundary before (some 'r') = true) (hc : isBlank c = false) :
    registerCall.recognise before ("registerType".toList ++ '(' :: c :: cs) = some (c :: cs) := by
  have hw : wordStart? "registerType" before ("registerType".toList ++ '(' :: c :: cs) =
      some ('(' :: c :: cs) :=
    wordStart?_append (by simpa using hb)
  have hs : blanksThen? "(" ('(' :: c :: cs) = some (c :: cs) := by
    unfold blanksThen?
    rw [trimLeft_of_head (by decide)]
    simp [after?]
  simp only [recognise, hw, hs, bind, Option.bind]
  rw [trimLeft_of_head hc]

theorem recognise_staticBlock {before : Option Char} (hb : isBoundary before (some 's') = true)
    (cs : List Char) :
    staticBlock.recognise before ("static".toList ++ ' ' :: '\x7b' :: cs) = some cs := by
  have hw : wordStart? "static" before ("static".toList ++ ' ' :: '\x7b' :: cs) =
      some (' ' :: '\x7b' :: cs) :=
    wordStart?_append (by simpa using hb)
  simp only [recognise, hw, bind, Option.bind]
  have hblank : trimLeft (' ' :: '\x7b' :: cs) = '\x7b' :: cs := rfl
  unfold blanksThen?
  rw [hblank]
  simp [after?]

theorem recognise_staticType {before : Option Char} {c : Char} {cs : List Char}
    (hb : isBoundary before (some 's') = true) (hc : isBlank c = false) :
    staticType.recognise before ("static".toList ++ (" type = ".toList ++ c :: cs)) =
      some (c :: cs) := by
  have hw : wordStart? "static" before ("static".toList ++ (" type = ".toList ++ c :: cs)) =
      some (" type = ".toList ++ c :: cs) := wordStart?_append (by simpa using hb)
  have hblank : followedBy? isBlank (" type = ".toList ++ c :: cs) =
      some (" type = ".toList ++ c :: cs) := by
    simp [followedBy?, show isBlank ' ' = true from rfl]
  have htype : blanksThen? "type" (" type = ".toList ++ c :: cs) =
      some (' ' :: '=' :: ' ' :: c :: cs) := by
    simp [blanksThen?, trimLeft, after?, show isBlank ' ' = true from rfl,
      show isBlank 't' = false from rfl]
  have hequals : blanksThen? "=" (' ' :: '=' :: ' ' :: c :: cs) = some (' ' :: c :: cs) := by
    simp [blanksThen?, trimLeft, after?, show isBlank ' ' = true from rfl,
      show isBlank '=' = false from rfl]
  simp only [recognise, hw, hblank, htype, hequals, bind, Option.bind]
  have htrim : trimLeft (' ' :: c :: cs) = trimLeft (c :: cs) := rfl
  rw [htrim, trimLeft_of_head hc]

theorem recognise_attribute {name : String} {before : Option Char}
    {value : List Char} (cs : List Char)
    (hb : isBoundary before (name.toList ++ '=' :: '\x22' :: (value ++ '\x22' :: cs)).head? = true)
    (hv : '\x22' ∉ value) :
    attribute? name before (name.toList ++ '=' :: '\x22' :: (value ++ '\x22' :: cs)) = some cs := by
  have hs : blanksThen? "=" ('=' :: '\x22' :: (value ++ '\x22' :: cs)) =
      some ('\x22' :: (value ++ '\x22' :: cs)) := by
    unfold blanksThen?
    rw [trimLeft_of_head (by decide)]
    simp [after?]
  have hdrop : (value ++ '\x22' :: cs).dropWhile (· != '\x22') = '\x22' :: cs := by
    rw [List.dropWhile_append_of_pos fun c hc => ?_]
    · rfl
    · rw [bne_iff_ne]
      rintro rfl
      exact hv hc
  simp only [attribute?, wordStart?_append hb, hs, bind, Option.bind]
  rw [trimLeft_of_head (by decide)]
  dsimp only
  rw [hdrop]
  rfl

theorem attributeValue_written {name : String} (hn : ∀ c ∈ name.toList, isStringQuote c = false)
    (value : List Char) :
    attributeValue (name.toList ++ '=' :: '\x22' :: (value ++ ['\x22'])) = value := by
  unfold attributeValue
  rw [List.dropWhile_append_of_pos fun c hc => by rw [hn c hc]; rfl]
  have hequals : isStringQuote '=' = false := by decide
  have hquote : isStringQuote '\x22' = true := by decide
  simp [hequals, hquote]

end Phrase

theorem slice_append (left middle right : List Char) :
    (Span.mk left.length (left.length + middle.length)).slice (left ++ (middle ++ right)) =
      middle := by
  unfold Span.slice
  rw [← List.append_assoc, ← List.length_append, List.take_left, List.drop_left]

theorem findMarkerFrom_isSome {marker left right : List Char} {before : Option Char}
    (hopen : isBoundary (left.getLast?.or before) (marker ++ right).head? = true)
    (hclose : isBoundary (marker.getLast?.or (left.getLast?.or before)) right.head? = true)
    (offset : Nat) :
    (findMarkerFrom marker before offset (left ++ (marker ++ right))).isSome = true := by
  induction left generalizing before offset with
  | nil =>
    simp only [List.getLast?_nil, Option.none_or, List.nil_append] at hopen hclose ⊢
    rw [findMarkerFrom.eq_def]
    dsimp only
    rw [hopen, after?_eq_some_iff.2 rfl, Option.any_some, hclose]
    rfl
  | cons c left ih =>
    rw [getLast?_cons_or] at hopen hclose
    rw [List.cons_append, findMarkerFrom.eq_def]
    dsimp only
    split
    · rfl
    · exact ih hopen hclose _

/-- A text with one occurrence: nothing occurs before and after the word. -/
theorem occurrences_one {r : Recogniser} {left word after : List Char}
    (hl : Silent r left (word ++ after)) (hne : word ≠ [])
    (hr : r left.getLast? (word ++ after) = some after) (ha : Silent r after []) :
    occurrences r (left ++ (word ++ after)) = [⟨left.length, left.length + word.length⟩] := by
  unfold occurrences
  rw [occurrencesFrom_silent hl, Option.or_none, Nat.zero_add, occurrencesFrom_hit hne hr,
    occurrencesFrom_eq_nil ha]

end TwinNode
