import TwinNode.Proofs.Scan.Occurrence
import TwinNode.Proofs.Script.Segment
import TwinNode.Proofs.Text.Absence
import TwinNode.Scan.Phrase

namespace TwinNode

open TwinNode.Text
open TwinNode.Script (Delimits)

theorem trimLeft_split (cs : List Char) :
    ∃ blanks, (∀ c ∈ blanks, isBlank c = true) ∧ cs = blanks ++ trimLeft cs :=
  ⟨cs.takeWhile isBlank, fun _ hc => List.all_eq_true.1 List.all_takeWhile _ hc,
    List.takeWhile_append_dropWhile.symm⟩

namespace Phrase

theorem wordStart?_eq_some {name : String} {before : Option Char} {cs rest : List Char}
    (h : wordStart? name before cs = some rest) : cs = name.toList ++ rest := by
  unfold wordStart? at h
  split at h
  · exact after?_eq_some_iff.1 h
  · cases h

theorem blanksThen?_eq_some {name : String} {cs rest : List Char}
    (h : blanksThen? name cs = some rest) :
    ∃ blanks, (∀ c ∈ blanks, isBlank c = true) ∧ cs = blanks ++ (name.toList ++ rest) := by
  obtain ⟨blanks, hb, hcs⟩ := trimLeft_split cs
  exact ⟨blanks, hb, after?_eq_some_iff.1 h ▸ hcs⟩

theorem followedBy?_eq_some {allowed : Char → Bool} {cs rest : List Char}
    (h : followedBy? allowed cs = some rest) : rest = cs := by
  unfold followedBy? at h
  split at h
  · exact (Option.some.inj h).symm
  · cases h

/-- The word that a phrase begins with, if it is always the same. -/
def opening? : Phrase → Option String
  | registerCall => some "registerType"
  | staticType | staticBlock => some "static"
  | defaultExport => some "export"
  | templateName => some "data-template-name"
  | helpName => some "data-help-name"
  | importStatement | moduleCall | moduleFrom => none

theorem recognise_opening {p : Phrase} {word : String} {before : Option Char} {cs rest : List Char}
    (hp : p.opening? = some word) (h : p.recognise before cs = some rest) :
    ∃ more, cs = word.toList ++ more := by
  have start : ∀ {f : List Char → Option (List Char)},
    (wordStart? word before cs).bind f = some rest →
      ∃ more, cs = word.toList ++ more := by
    intro f hf
    obtain ⟨more, hw, _⟩ := Option.bind_eq_some_iff.1 hf
    exact ⟨more, wordStart?_eq_some hw⟩
  cases p <;> simp only [opening?, reduceCtorEq, Option.some.injEq] at hp
    <;> subst hp <;> exact start h

/-- What a phrase reads up to its last sign, and the blanks after that. No delimiter is read. -/
structure Reads (cs words : List Char) (sign : Char) (blanks rest : List Char) : Prop where
  split : cs = words ++ sign :: (blanks ++ rest)
  words_open : ∀ c ∈ words, ¬Delimits c
  sign_open : ¬Delimits sign
  sign_visible : isBlank sign = false
  blanks_blank : ∀ c ∈ blanks, isBlank c = true

theorem not_delimits_of_blank {c : Char} (h : isBlank c = true) : ¬Delimits c := by
  rintro (hq | rfl)
  · rw [Script.isQuote_iff] at hq
    rcases hq with rfl | rfl | rfl <;> revert h <;> decide
  · revert h
    decide

/-- What a registering call reads: its word, blanks, the parenthesis, and blanks. -/
theorem registerCall_eq_some {before : Option Char} {cs rest : List Char}
    (h : registerCall.recognise before cs = some rest) :
    ∃ gap blanks, cs = ("registerType".toList ++ gap) ++ '(' :: (blanks ++ rest) ∧
      (∀ c ∈ gap, isBlank c = true) ∧
      ∀ c ∈ blanks, isBlank c = true := by
  obtain ⟨cs₁, h₁, hcs₁⟩ := Option.bind_eq_some_iff.1 h
  obtain ⟨cs₂, h₂, hcs₂⟩ := Option.bind_eq_some_iff.1 hcs₁
  obtain rfl := Option.some.inj hcs₂
  obtain ⟨gap, hgap, rfl⟩ := blanksThen?_eq_some h₂
  obtain ⟨blanks, hblanks, hsplit⟩ := trimLeft_split cs₂
  refine ⟨gap, blanks, ?_, hgap, hblanks⟩
  rw [wordStart?_eq_some h₁, List.append_assoc, ← hsplit]
  rfl

theorem reads_registerCall {before : Option Char} {cs rest : List Char}
    (h : registerCall.recognise before cs = some rest) :
    ∃ words blanks, Reads cs words '(' blanks rest := by
  obtain ⟨gap, blanks, hsplit, hgap, hblanks⟩ := registerCall_eq_some h
  refine ⟨"registerType".toList ++ gap, blanks, hsplit, ?_, by decide, by decide, hblanks⟩
  intro c hc
  rcases List.mem_append.1 hc with hc | hc
  · exact (by decide : ∀ c ∈ "registerType".toList, ¬Delimits c) c hc
  · exact not_delimits_of_blank (hgap c hc)

theorem reads_staticType {before : Option Char} {cs rest : List Char}
    (h : staticType.recognise before cs = some rest) :
    ∃ words blanks, Reads cs words '=' blanks rest := by
  obtain ⟨cs₁, h₁, hcs₁⟩ := Option.bind_eq_some_iff.1 h
  obtain ⟨cs₂, h₂, hcs₂⟩ := Option.bind_eq_some_iff.1 hcs₁
  rw [followedBy?_eq_some h₂] at hcs₂
  obtain ⟨cs₃, h₃, hcs₃⟩ := Option.bind_eq_some_iff.1 hcs₂
  obtain ⟨cs₄, h₄, hcs₄⟩ := Option.bind_eq_some_iff.1 hcs₃
  obtain rfl := Option.some.inj hcs₄
  obtain ⟨gap, hgap, rfl⟩ := blanksThen?_eq_some h₃
  obtain ⟨space, hspace, rfl⟩ := blanksThen?_eq_some h₄
  obtain ⟨blanks, hblanks, hsplit⟩ := trimLeft_split cs₄
  refine ⟨"static".toList ++ gap ++ ("type".toList ++ space), blanks, ?_, ?_,
    by decide, by decide, hblanks⟩
  · rw [wordStart?_eq_some h₁, ← hsplit]
    simp only [List.append_assoc]
    rfl
  · intro c hc
    simp only [List.mem_append] at hc
    rcases hc with (hc | hc) | hc | hc
    · exact (by decide : ∀ c ∈ "static".toList, ¬Delimits c) c hc
    · exact not_delimits_of_blank (hgap c hc)
    · exact (by decide : ∀ c ∈ "type".toList, ¬Delimits c) c hc
    · exact not_delimits_of_blank (hspace c hc)

/-- The phrases that declare type names in scripts. -/
def declaresInScripts (p : Phrase) : Prop := p = registerCall ∨ p = staticType

theorem reads_of_recognise {p : Phrase} (hp : p.declaresInScripts)
    {before : Option Char} {cs rest : List Char} (h : p.recognise before cs = some rest) :
    ∃ words sign blanks, Reads cs words sign blanks rest := by
  rcases hp with rfl | rfl
  · obtain ⟨words, blanks, reads⟩ := reads_registerCall h
    exact ⟨words, '(', blanks, reads⟩
  · obtain ⟨words, blanks, reads⟩ := reads_staticType h
    exact ⟨words, '=', blanks, reads⟩

theorem Reads.stop_eq {left cs words blanks rest : List Char} {sign : Char} {o : Span}
    (h : Reads cs words sign blanks rest) (hstart : o.start = 0 + left.length)
    (hstop : o.stop = o.start + (cs.length - rest.length)) :
    Reads ((left ++ cs).drop o.start) words sign blanks rest ∧
      o.stop = o.start + words.length + 1 + blanks.length := by
  have hdrop : (left ++ cs).drop o.start = cs := by rw [hstart, Nat.zero_add, List.drop_left]
  refine ⟨hdrop.symm ▸ h, ?_⟩
  have hlen := congrArg List.length h.split
  simp only [List.length_append, List.length_cons] at hlen
  omega

/-- What a phrase of scripts reads at the place where it is found. -/
theorem reads_of_mem {p : Phrase} (hp : p.declaresInScripts) {text : List Char} {o : Span}
    (h : o ∈ occurrences p.recognise text) :
    ∃ words sign blanks rest, Reads (text.drop o.start) words sign blanks rest ∧
      o.stop = o.start + words.length + 1 + blanks.length := by
  obtain ⟨left, right, rest, rfl, _, hstart, hr, hstop⟩ := occurs_of_mem h
  obtain ⟨words, sign, blanks, reads⟩ := reads_of_recognise hp hr
  exact ⟨words, sign, blanks, rest, reads.stop_eq hstart hstop⟩

/-- The last sign of a phrase is the last character before its end that is no blank. -/
theorem Reads.find?_before {text words blanks rest : List Char} {sign : Char} {o : Span}
    (h : Reads (text.drop o.start) words sign blanks rest)
    (hstop : o.stop = o.start + words.length + 1 + blanks.length) :
    (text.take o.stop).reverse.find? (!isBlank ·) = some sign := by
  have htext : text = text.take o.start ++ (words ++ sign :: blanks) ++ rest := by
    conv => lhs; rw [← List.take_append_drop o.start text, h.split]
    simp
  have hlen : o.start ≤ text.length := by
    have := congrArg List.length h.split
    simp only [List.length_drop, List.length_append, List.length_cons] at this
    omega
  have htake : text.take o.stop = text.take o.start ++ (words ++ sign :: blanks) := by
    conv => lhs; rw [htext]
    refine List.take_left' ?_
    simp only [List.length_append, List.length_cons, List.length_take, Nat.min_eq_left hlen]
    omega
  have hblanks : blanks.reverse.find? (!isBlank ·) = none := by
    refine List.find?_eq_none.2 fun c hc => ?_
    simp [h.blanks_blank c (List.mem_reverse.1 hc)]
  rw [htake, List.reverse_append, List.reverse_append, List.reverse_cons,
    List.append_assoc, List.append_assoc, List.find?_append, hblanks, Option.none_or,
      List.singleton_append, List.find?_cons, h.sign_visible]
  rfl

/-- A call and a field end at different places. -/
theorem stop_ne_stop {text : List Char} {call field : Span}
    (hcall : call ∈ occurrences registerCall.recognise text)
    (hfield : field ∈ occurrences staticType.recognise text) : call.stop ≠ field.stop := by
  intro hstop
  obtain ⟨left, right, rest, rfl, _, hstart, hr, hend⟩ := occurs_of_mem hcall
  obtain ⟨words, blanks, reads⟩ := reads_registerCall hr
  obtain ⟨reads, hend⟩ := reads.stop_eq hstart hend
  have hcallSign := reads.find?_before hend
  obtain ⟨left', right', rest', hsplit, _, hstart, hr, hend⟩ := occurs_of_mem hfield
  obtain ⟨words', blanks', reads⟩ := reads_staticType hr
  obtain ⟨reads, hend⟩ := reads.stop_eq hstart hend
  have hfieldSign := reads.find?_before hend
  rw [← hsplit, ← hstop, hcallSign] at hfieldSign
  exact absurd hfieldSign (by decide)

/-- A registering call reads no angle. -/
theorem angleless_registerCall {before : Option Char} {cs rest : List Char}
    (h : registerCall.recognise before cs = some rest) :
    ∃ read, cs = read ++ rest ∧ '<' ∉ read := by
  obtain ⟨gap, blanks, rfl, hgap, hblanks⟩ := registerCall_eq_some h
  have hangle : isBlank '<' = false := by decide
  refine ⟨("registerType".toList ++ gap) ++ '(' :: blanks,
    by rw [List.append_assoc _ (_ :: _), List.cons_append], ?_⟩
  simp only [List.mem_append, List.mem_cons, not_or]
  refine ⟨⟨by decide, fun hin => ?_⟩, by decide, fun hin => ?_⟩
  · simp [hgap '<' hin] at hangle
  · simp [hblanks '<' hin] at hangle

theorem angleless_of_mem {text : List Char} {o : Span}
    (h : o ∈ occurrences registerCall.recognise text) {k : Nat} (hlo : o.start ≤ k)
    (hhi : k < o.stop) : text[k]? ≠ some '<' := by
  obtain ⟨left, right, rest, rfl, _, hstart, hr, hstop⟩ := occurs_of_mem h
  obtain ⟨read, rfl, hread⟩ := angleless_registerCall hr
  rw [List.length_append] at hstop
  rw [List.getElem?_append_right (by omega), List.getElem?_append_left (by omega)]
  exact fun hk => hread (List.mem_of_getElem? hk)

end Phrase

end TwinNode
