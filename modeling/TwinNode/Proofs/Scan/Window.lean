import TwinNode.Proofs.Scan.Phrase

/-! Where a recogniser reads nothing of what stands after a place, its occurrences in a text
are those up to this place and those from there on. A brace is such a place for a
registering call: so the calls between two braces are those of the whole text that stand
there. -/

namespace TwinNode

open TwinNode.Text

/-- Nothing of `after` is read by a recogniser that begins before it. -/
def StopsAt (r : Recogniser) (after : List Char) : Prop :=
  ∀ before right, right ≠ [] → r before (right ++ after) = (r before right).map (· ++ after)

theorem occurrencesFrom_split {r : Recogniser} {after : List Char}
    (hr : StopsAt r after) (before : Option Char) (offset : Nat) {skip : Nat} {cs : List Char}
    (hskip : skip ≤ cs.length) :
    occurrencesFrom r before offset skip (cs ++ after) = occurrencesFrom r before offset skip cs ++
      occurrencesFrom r (cs.getLast?.or before) (offset + cs.length) 0 after := by
  induction cs generalizing before offset skip with
  | nil =>
    obtain rfl : skip = 0 := by simpa using hskip
    simp [occurrencesFrom]
  | cons c cs ih =>
    have hoffset : offset + 1 + cs.length = offset + (c :: cs).length := by
      simp
      omega
    rw [getLast?_cons_or, ← hoffset]
    cases skip with
    | succ skip => exact ih (some c) (offset + 1) (by simpa using hskip)
    | zero =>
      -- What is recognised here ends before `after`, so what is skipped does, too.
      have hfirst := hr before (c :: cs) (List.cons_ne_nil c cs)
      simp only [List.cons_append] at hfirst ⊢
      simp only [occurrencesFrom, hfirst]
      cases r before (c :: cs) with
      | none => exact ih (some c) (offset + 1) (Nat.zero_le _)
      | some rest =>
        have hskip : cs.length - rest.length ≤ cs.length := by omega
        have hrest := ih (some c) (offset + 1) hskip
        simp only [Option.map_some, List.length_append, Nat.add_sub_add_right,
          List.cons_append, hrest]
        congr 3
        omega

theorem stop_le_of_mem {r : Recogniser} {before : Option Char} {offset skip : Nat}
    {cs : List Char} {o : Span} (h : o ∈ occurrencesFrom r before offset skip cs) :
    o.start < offset + cs.length ∧ o.stop ≤ offset + cs.length := by
  obtain ⟨left, right, rest, rfl, hne, hstart, -, hstop⟩ := occurs_of_mem h
  have := List.length_pos_iff.2 hne
  simp
  omega

section Sign

variable {sign : Char} (rest : List Char)

theorem after?_sign {name : List Char} (h : sign ∉ name) (cs : List Char) :
    after? name (cs ++ sign :: rest) = (after? name cs).map (· ++ sign :: rest) := by
  induction name generalizing cs with
  | nil => rfl
  | cons n name ih =>
    rw [List.mem_cons, not_or] at h
    cases cs with
    | nil => simp [after?, h.1]
    | cons c cs =>
      by_cases hc : c = n
      · simp [after?, hc, ih h.2]
      · simp [after?, hc]

theorem trimLeft_sign (h : isBlank sign = false) (cs : List Char) :
    trimLeft (cs ++ sign :: rest) = trimLeft cs ++ sign :: rest := by
  unfold trimLeft
  induction cs with
  | nil => simp [h]
  | cons c cs ih => cases hc : isBlank c <;> simp [hc, ih]

namespace Phrase

theorem wordStart?_sign {name : String} (h : sign ∉ name.toList) (before : Option Char)
    {cs : List Char} (hne : cs ≠ []) :
    wordStart? name before (cs ++ sign :: rest) =
      (wordStart? name before cs).map (· ++ sign :: rest) := by
  obtain ⟨c, cs, rfl⟩ := List.exists_cons_of_ne_nil hne
  have hname := after?_sign rest h (c :: cs)
  unfold wordStart?
  rw [List.cons_append] at hname ⊢
  rw [List.head?_cons, List.head?_cons, hname]
  split <;> rfl

theorem blanksThen?_sign {name : String} (h : sign ∉ name.toList) (hblank : isBlank sign = false)
    (cs : List Char) :
    blanksThen? name (cs ++ sign :: rest) = (blanksThen? name cs).map (· ++ sign :: rest) := by
  unfold blanksThen?
  rw [trimLeft_sign rest hblank, after?_sign rest h]

/-- A registering call reads no sign but its parenthesis. -/
theorem stopsAt_registerCall (hblank : isBlank sign = false) (hname : sign ∉ "registerType".toList)
    (hcall : sign ≠ '(') :
    StopsAt registerCall.recognise (sign :: rest) := by
  intro before right hne
  have hparenthesis : sign ∉ "(".toList := by simpa using hcall
  simp only [recognise, wordStart?_sign rest hname before hne]
  cases wordStart? "registerType" before right with
  | none => rfl
  | some cs =>
    simp only [Option.map_some, bind, Option.bind_some, blanksThen?_sign rest hparenthesis hblank]
    cases blanksThen? "(" cs with
    | none => rfl
    | some cs => simp [trimLeft_sign rest hblank]

end Phrase

end Sign

theorem charBefore?_append (above after : List Char) :
    charBefore? (above ++ after) above.length = above.getLast? := by
  rcases List.eq_nil_or_concat above with rfl | ⟨above, c, rfl⟩
  · rfl
  · simp [charBefore?]

theorem split_of_getElem? {cs : List α} {k : Nat} {c : α} (h : cs[k]? = some c) :
    ∃ left right, cs = left ++ c :: right ∧ left.length = k := by
  obtain ⟨hlt, rfl⟩ := List.getElem?_eq_some_iff.1 h
  refine ⟨cs.take k, cs.drop (k + 1), ?_, ?_⟩
  · rw [← List.drop_eq_getElem_cons hlt, List.take_append_drop]
  · simp
    omega

section Window

variable {r : Recogniser} (above : List Char) {window below : List Char}

theorem occurrencesIn_window : occurrencesIn r (above ++ (window ++ below))
    ⟨above.length, above.length + window.length⟩ =
      occurrencesFrom r above.getLast? above.length 0 window := by
  unfold occurrencesIn Span.slice
  rw [List.take_length_add_append, List.take_left, List.drop_left, charBefore?_append]

/-- The occurrences of a text, where nothing is read across the ends of a window. -/
theorem occurrences_window (hstart : StopsAt r (window ++ below)) (hstop : StopsAt r below) :
    occurrences r (above ++ (window ++ below)) = occurrences r above ++
      (occurrencesFrom r above.getLast? above.length 0 window ++
        occurrencesFrom r (window.getLast?.or above.getLast?) (above.length + window.length)
          0 below) := by
  unfold occurrences
  rw [occurrencesFrom_split hstart none 0 (Nat.zero_le _), Option.or_none, Nat.zero_add,
    occurrencesFrom_split hstop above.getLast? above.length (Nat.zero_le _)]

end Window

/-- A registering call begins with its word, and is not empty. -/
theorem word_of_mem {text : List Char} {call : Span}
    (h : call ∈ occurrences Phrase.registerCall.recognise text) :
    text[call.start]? = some 'r' ∧ call.start < call.stop := by
  constructor
  · obtain ⟨left, right, rest, rfl, -, hstart, hr, -⟩ := occurs_of_mem h
    obtain ⟨more, rfl⟩ := Phrase.recognise_opening rfl hr
    simp [hstart]
  · obtain ⟨words, sign, blanks, rest, -, hstop⟩ := Phrase.reads_of_mem (.inl rfl) h
    omega

/-- The registering calls that are found between two braces are those of the whole skeleton that lie
between them. -/
theorem mem_findIn_iff {v : Views} {start close : Nat} (hlt : start < close)
    (hopen : v.skeleton[start]? = some '\x7b') (hclose : v.skeleton[close]? = some '\x7d')
    {call : Span} :
    call ∈ v.findIn .registerCall ⟨start, close⟩ ↔
      call ∈ v.find .registerCall ∧ start < call.start ∧ call.stop ≤ close := by
  obtain ⟨front, below, hsplit, rfl⟩ := split_of_getElem? hclose
  have hfront : front[start]? = some '\x7b' := by
    rw [← hopen, hsplit, List.getElem?_append_left hlt]
  obtain ⟨above, inside, rfl, rfl⟩ := split_of_getElem? hfront
  have hstart : StopsAt Phrase.registerCall.recognise ('\x7b' :: inside ++ '\x7d' :: below) :=
    Phrase.stopsAt_registerCall _ (by decide) (by decide) (by decide)
  have hstop : StopsAt Phrase.registerCall.recognise ('\x7d' :: below) :=
    Phrase.stopsAt_registerCall _ (by decide) (by decide) (by decide)
  have hfind := occurrences_window above hstart hstop
  rw [List.append_assoc] at hsplit
  unfold Views.find Views.findIn
  rw [hsplit] at hopen ⊢
  rw [List.length_append, occurrencesIn_window]
  constructor
  · intro h
    have hmem : call ∈ occurrences Phrase.registerCall.recognise
        (above ++ ('\x7b' :: inside ++ '\x7d' :: below)) := by
      rw [hfind]
      exact List.mem_append_right _ (List.mem_append_left _ h)
    have hlo := start_of_mem h
    -- At the brace no call begins.
    have hne : call.start ≠ above.length := by
      intro heq
      have hword := (word_of_mem hmem).1
      rw [heq, hopen] at hword
      exact absurd hword (by decide)
    exact ⟨hmem, by omega, (stop_le_of_mem h).2⟩
  · rintro ⟨h, hlo, hhi⟩
    have hnonempty := (word_of_mem h).2
    rw [hfind, List.mem_append, List.mem_append] at h
    rcases h with h | h | h
    · have := (stop_le_of_mem h).1
      omega
    · exact h
    · have := start_of_mem h
      omega

end TwinNode
