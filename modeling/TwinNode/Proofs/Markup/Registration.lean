import TwinNode.Proofs.Markup.Body
import TwinNode.Proofs.Script.ReadBack

/-! In the body of a block the skeleton shows what it shows of the body alone, so a quote
right after a registering call opens a literal of the body. The delimiter that closes it is
looked up in the whole text, though. A literal that is left open at the end of its block is
read on, through the closing tag and up to the next such delimiter. -/

namespace TwinNode

/-- The code from an offset up to the next `quote` that the skeleton shows. -/
def Views.untilQuote (v : Views) (quote : Char) (offset : Nat) : List Char :=
  (v.code.drop offset).take ((v.skeleton.drop offset).takeWhile (· != quote)).length

namespace Markup

open TwinNode.Script (Segment StandsAt isQuote segments)

namespace BodyAt

variable {text : List Char} {start : Nat} {b : Block} (h : BodyAt text start b)
include h

/-- A call that begins in a body ends in it: the closing tag is no part of a call. -/
theorem stop_le {call : Span} (hcall : call ∈ (views text).find .registerCall)
    (hin : call.start < start + b.body.length) : call.stop ≤ start + b.body.length := by
  by_contra hlt
  exact Phrase.angleless_of_mem hcall (Nat.le_of_lt hin) (by omega) h.skeleton_end

/-- What a call in a body reads is read in the skeleton of the body alone. -/
theorem reads {call : Span} (hcall : call ∈ (views text).find .registerCall)
    (hstart : start ≤ call.start) (hin : call.start < start + b.body.length) :
    ∃ words sign blanks rest,
      Phrase.Reads ((Script.skeleton b.body).drop (call.start - start)) words sign blanks rest ∧
        call.stop = call.start + words.length + 1 + blanks.length := by
  have hle := h.stop_le hcall hin
  obtain ⟨words, sign, blanks, rest, hreads, hstop⟩ := Phrase.reads_of_mem (.inl rfl) hcall
  have hlength : (Script.skeleton b.body).length = b.body.length := Script.length_skeleton [] b.body
  have hplace : start + (call.start - start) = call.start := by omega
  have hsplit := h.skeleton_drop (k := call.start - start) (by omega)
  rw [hplace, hreads.split, ← List.cons_append, ← List.append_assoc] at hsplit
  have hshort : (words ++ sign :: blanks).length ≤
      ((Script.skeleton b.body).drop (call.start - start)).length := by
    simp only [List.length_append, List.length_cons, List.length_drop]
    omega
  obtain ⟨inner, hinner⟩ :=
    List.prefix_of_prefix_length_le (hsplit ▸ List.prefix_append _ rest)
      (List.prefix_append _ _) hshort
  refine ⟨words, sign, blanks, inner, ⟨?_, hreads.words_open, hreads.sign_open, hreads.sign_visible,
    hreads.blanks_blank⟩, hstop⟩
  rw [← hinner, List.append_assoc, List.cons_append]

/-- A quote right after a call in a body opens a literal of the body. -/
theorem opensAt {call : Span} (hcall : call ∈ (views text).find .registerCall)
    (hstart : start ≤ call.start) (hin : call.start < start + b.body.length) {quote : Char}
    (hc : (views text).skeleton[call.stop]? = some quote) (hq : isQuote quote = true) :
    Script.OpensAt b.body (call.stop - start) quote := by
  have hlt : call.stop < start + b.body.length := by
    refine Nat.lt_of_le_of_ne (h.stop_le hcall hin) fun heq => ?_
    rw [heq, h.skeleton_end] at hc
    obtain rfl := Option.some.inj hc
    exact absurd hq (by decide)
  obtain ⟨words, sign, blanks, rest, hreads, hstop⟩ := h.reads hcall hstart hin
  have hplace : call.stop - start = call.start - start + words.length + 1 +
      blanks.length := by omega
  have hsame : start + (call.stop - start) = call.stop := by omega
  rw [← hsame, h.skeleton_getElem? (by omega), hplace] at hc
  rw [hplace]
  exact Script.opensAt_of_reads hreads hc hq

/-- What is read at the opening delimiter of a literal of a body: its inside, or, if it is left open
at the end of the body, all up to the next such delimiter. -/
theorem read_cases {k : Nat} {quote : Char} {tail read : List Char} {closed : Bool}
    (hq : isQuote quote = true) (hs : StandsAt b.body k (.literal quote tail closed))
    (hread : (views text).literal? (start + k) = some read) :
    closed = true ∧ tail = read ++ [quote] ∨ closed = false ∧ k + 1 + tail.length = b.body.length ∧
      read = tail ++ (views text).untilQuote quote (start + b.body.length) := by
  obtain ⟨seen, rest, hsource, hcut, hcode, hskeleton, _⟩ := hs.drop
  have hlength := congrArg List.length hsource
  simp only [List.length_drop, List.length_append, Segment.source, List.length_cons] at hlength
  have hshown := h.skeleton_drop (k := k) (by omega)
  have hwritten := h.code_drop (k := k) (by omega)
  rw [hskeleton, List.append_assoc] at hshown
  rw [hcode, List.append_assoc] at hwritten
  rw [Script.literal?_of_cut hcut hq hshown hwritten] at hread
  cases hcut with
  | @closed _ inside _ _ =>
    rw [if_pos rfl, Option.ite_none_right_eq_some, List.dropLast_concat] at hread
    obtain rfl := Option.some.inj hread.2
    exact .inl ⟨rfl, rfl⟩
  | broken =>
    rw [if_neg Bool.false_ne_true, Option.ite_none_right_eq_some] at hread
    cases hread.1.1
  | endless =>
    rw [if_neg Bool.false_ne_true, Option.ite_none_right_eq_some] at hread
    rw [List.length_nil] at hlength
    exact .inr ⟨rfl, by omega, (Option.some.inj hread.2).symm⟩

end BodyAt

def InBody (text : List Char) (call : Span) : Prop :=
  ∃ start b, BodyAt text start b ∧ start ≤ call.start ∧ call.start < start + b.body.length

/-- A literal opens right after the call, in the body in which the call stands, and is closed in
this body. -/
def ClosedAfter (text : List Char) (call : Span) (inside : List Char) : Prop :=
  ∃ start b, BodyAt text start b ∧ start ≤ call.start ∧ ∃ quote, isQuote quote = true ∧
    StandsAt b.body (call.stop - start) (.literal quote (inside ++ [quote]) true)

/-- A literal opens right after the call, in the body in which the call stands, and is still open at
the end of this body. -/
def OpenAfter (text : List Char) (call : Span) (quote : Char) (tail : List Char) : Prop :=
  ∃ start b, BodyAt text start b ∧ start ≤ call.start ∧ isQuote quote = true ∧
    StandsAt b.body (call.stop - start) (.literal quote tail false) ∧
    call.stop + 1 + tail.length = start + b.body.length

theorem start_lt_of_standsAt {body tail : List Char} {start : Nat} {call : Span}
    {quote : Char} {closed : Bool} (hlt : call.start < call.stop) (hstart : start ≤ call.start)
    (hs : StandsAt body (call.stop - start) (.literal quote tail closed)) :
    call.start < start + body.length := by
  have hin := Script.offset_lt_of_standsAt hs
  rw [Script.skeleton, Script.length_skeleton] at hin
  omega

section Call

variable {text : List Char} {call : Span} (hcall : call ∈ (views text).find .registerCall)
include hcall

theorem start_lt_stop : call.start < call.stop := by
  obtain ⟨words, sign, blanks, _, _, hstop⟩ := Phrase.reads_of_mem (.inl rfl) hcall
  omega

/-- No literal is both closed in the body and open at its end. -/
theorem not_openAfter {inside : List Char} (h : ClosedAfter text call inside)
    (quote : Char) (tail : List Char) :
    ¬OpenAfter text call quote tail := by
  obtain ⟨start, b, hb, hstart, quote, _, hs⟩ := h
  rintro ⟨start', b', hb', hstart', _, hs', _⟩
  have hlt := start_lt_stop hcall
  obtain ⟨rfl, rfl⟩ :=
    hb.unique hb' hstart (start_lt_of_standsAt hlt hstart hs) hstart'
      (start_lt_of_standsAt hlt hstart' hs')
  obtain ⟨_, hdrop, htail⟩ := Script.literalTail_of_standsAt hs
  obtain ⟨_, hdrop', htail'⟩ := Script.literalTail_of_standsAt hs'
  obtain ⟨rfl, _⟩ := List.cons.inj (hdrop.symm.trans hdrop')
  have hclosed := congrArg Script.LiteralTail.closed (htail.symm.trans htail')
  cases hclosed

/-- Without a literal that is open at the end of the body, what is read after a call in a body is
the inside of one that is closed there. -/
theorem closedAfter_of_inBody {read : List Char} (hin : InBody text call)
    (hnone : ∀ quote tail, ¬OpenAfter text call quote tail)
    (hread : (views text).literal? call.stop = some read) :
    ClosedAfter text call read := by
  obtain ⟨start, b, hb, hstart, hend⟩ := hin
  obtain ⟨quote, hq, hc⟩ := Script.quote_of_literal? hread
  obtain ⟨_, tail, closed, hs⟩ := hb.opensAt hcall hstart hend hc hq
  have hlt := start_lt_stop hcall
  have hplace : start + (call.stop - start) = call.stop := by omega
  rw [← hplace] at hread
  rcases hb.read_cases hq hs hread with ⟨rfl, rfl⟩ | ⟨rfl, hreach, _⟩
  · exact ⟨start, b, hb, hstart, quote, hq, hs⟩
  · exact absurd ⟨start, b, hb, hstart, hq, hs, by omega⟩ (hnone quote tail)

/-- A literal that is open at the end of the body is read on after the body. -/
theorem read_of_openAfter {read tail : List Char} {quote : Char}
    (h : OpenAfter text call quote tail) (hread : (views text).literal? call.stop = some read) :
    read = tail ++ (views text).untilQuote quote (call.stop + 1 + tail.length) := by
  obtain ⟨start, b, hb, hstart, hq, hs, hreach⟩ := h
  have hlt := start_lt_stop hcall
  have hplace : start + (call.stop - start) = call.stop := by omega
  rw [← hplace] at hread
  rcases hb.read_cases hq hs hread with ⟨hclosed, _⟩ | ⟨_, _, rfl⟩
  · cases hclosed
  · rw [hreach]

theorem inBody_of_closedAfter {inside : List Char} (h : ClosedAfter text call inside) :
    InBody text call := by
  obtain ⟨start, b, hb, hstart, _, _, hs⟩ := h
  exact ⟨start, b, hb, hstart, start_lt_of_standsAt (start_lt_stop hcall) hstart hs⟩

end Call

/-- The type names of markup that are registered in its scripts are read after calls there. -/
theorem exists_call {settings : RuleSettings} {path : String} {v : Views} {i : Identity}
    (hi : i ∈ (markupDeclarations settings path v).identities)
    (hrole : i.role = .registrationCall) :
    ∃ call ∈ v.find .registerCall, (∃ s ∈ v.javaScriptSpans, s.contains call.start = true) ∧
      i.location = v.location call.start ∧
      ∃ read, v.literal? call.stop = some read ∧ i.value = String.ofList (Text.trim read) := by
  rw [markupDeclarations_identities] at hi
  rcases List.mem_append.1 hi with hi | hi
  · obtain ⟨call, hcall, _, hread, rfl⟩ := Views.mem_declaredAfter.1 hi
    obtain ⟨hfound, hspan⟩ := List.mem_filter.1 hcall
    obtain ⟨read, hliteral, rfl⟩ := Option.map_eq_some_iff.1 hread
    exact ⟨call, hfound, List.any_eq_true.1 hspan, rfl, read, hliteral, rfl⟩
  · exfalso
    rcases List.mem_append.1 hi with hi | hi <;> obtain ⟨_, _, _, rfl⟩ :=
      Views.mem_attributeIdentities.1 hi <;> cases hrole

theorem inBody_of_span {text : List Char} {call s : Span}
    (hs : s ∈ javaScriptSpansFrom 0 (pieces (blankComments false text)))
    (hin : s.contains call.start = true) :
    InBody text call := by
  obtain ⟨b, hb, hstop⟩ := exists_bodyAt hs
  simp only [Span.contains, Bool.and_eq_true, decide_eq_true_eq] at hin
  exact ⟨s.start, b, hb, hin.1, hstop ▸ hin.2⟩

/-- A type name that is registered in markup is the inside of a literal that opens and is closed in
the block of the call, if and only if the call stands in a block where it was found first and no
literal after it is open at the end of this block. Such a literal is read on after its block. Each
call stands in a block if blanking the comments of a body never makes a closing tag of what was
none. -/
theorem registrations_closed_iff {settings : RuleSettings} {path : String}
    {text : List Char} {i : Identity}
    (hi : i ∈ (markupDeclarations settings path (views text)).identities)
    (hrole : i.role = .registrationCall) :
    ∃ call ∈ (views text).find .registerCall, i.location = (views text).location call.start ∧
      ((∃ inside, ClosedAfter text call inside ∧ i.value = String.ofList (Text.trim inside)) ↔
        InBody text call ∧ ∀ quote tail, ¬OpenAfter text call quote tail) ∧
      (∀ quote tail, OpenAfter text call quote tail →
        i.value = String.ofList
          (Text.trim (tail ++ (views text).untilQuote quote (call.stop + 1 + tail.length)))) ∧
      ((∀ b, .block b ∈ pieces (blankComments false text) → isJavaScript b.attributes = true →
        untilClosingTag? (Script.code b.body) = none) → InBody text call) := by
  obtain ⟨call, hcall, ⟨s, hs, hin⟩, hlocation, read, hread, hvalue⟩ := exists_call hi hrole
  refine ⟨call, hcall, hlocation, ⟨?_, ?_⟩, ?_, ?_⟩
  · rintro ⟨inside, hclosed, _⟩
    exact ⟨inBody_of_closedAfter hcall hclosed, not_openAfter hcall hclosed⟩
  · rintro ⟨hbody, hnone⟩
    exact ⟨read, closedAfter_of_inBody hcall hbody hnone hread, hvalue⟩
  · intro quote tail hopen
    rw [hvalue, read_of_openAfter hcall hopen hread]
  · intro hagain
    have hspans : (views text).javaScriptSpans = javaScriptSpansFrom 0
        (pieces (blankComments false text)) :=
      (javaScriptSpansFrom_code_iff (blankComments false text) 0).2 hagain
    rw [hspans] at hs
    exact inBody_of_span hs hin

def namedCall : List Char := "registerType(\x22a\x22)".toList

def namedMarkup : List Char := (Block.written [] namedCall).source

theorem segments_namedCall : segments [] namedCall =
    "registerType(".toList.map .plain ++ [.literal '\x22' ['a', '\x22'] true, .plain ')'] := by
  decide +kernel

theorem registrations_closed_named :
    ∃ i ∈ (markupDeclarations {} "a.html" (views namedMarkup)).identities,
    i.role = .registrationCall ∧ i.value = "a" ∧ ∃ call ∈ (views namedMarkup).find .registerCall,
      i.location = (views namedMarkup).location call.start ∧
      ∃ inside, ClosedAfter namedMarkup call inside ∧
        i.value = String.ofList (Text.trim inside) := by
  obtain ⟨i, hi⟩ : ∃ i, (markupDeclarations {} "a.html" (views namedMarkup)).identities = [i] ∧
      i.role = .registrationCall ∧ i.value = "a" :=
        ⟨⟨"a.html", .registrationCall, "a", "line 1"⟩, by decide +kernel⟩
  have hmem : i ∈ (markupDeclarations {} "a.html" (views namedMarkup)).identities := by
    rw [hi.1]
    exact List.mem_singleton_self i
  have hpieces : pieces (blankComments false namedMarkup) = [.block (.written [] namedCall)] := by
    decide +kernel
  have hblock : ∀ b, .block b ∈ pieces (blankComments false namedMarkup) → b.body = namedCall := by
    rw [hpieces]
    intro b hb
    rw [Piece.block.inj (List.mem_singleton.1 hb)]
    rfl
  obtain ⟨call, hcall, hlocation, hclosed, _, hbody⟩ := registrations_closed_iff hmem hi.2.1
  refine ⟨i, hmem, hi.2.1, hi.2.2, call, hcall, hlocation, hclosed.2 ⟨hbody fun b hb _ => ?_, ?_⟩⟩
  · rw [hblock b hb]
    decide +kernel
  · rintro quote tail ⟨start, b, hb, _, _, hs, _⟩
    have hopen := hs.mem
    rw [hblock b hb.mem, segments_namedCall] at hopen
    simp at hopen

def openCall : List Char := "registerType(\x22a".toList

/-- The next quote after the body is that of an attribute. -/
def openMarkup : List Char := (Block.written [] openCall).source ++ "<p title=\x22b\x22>".toList

theorem segments_openCall :
    segments [] openCall = "registerType(".toList.map .plain ++ [.literal '\x22' ['a'] false] := by
  decide +kernel

/-- A type name that goes on through the closing tag, while no literal is closed in a block. -/
theorem registration_runs_on : ∃ i ∈ (markupDeclarations {} "a.html" (views openMarkup)).identities,
    i.role = .registrationCall ∧ i.value = "a</script><p title=" ∧
      ∀ call inside, ¬ClosedAfter openMarkup call inside := by
  have hfound : (markupDeclarations {} "a.html" (views openMarkup)).identities =
      [⟨"a.html", .registrationCall, "a</script><p title=", "line 1"⟩] := by decide +kernel
  have hpieces : pieces (blankComments false openMarkup) =
      .block (.written [] openCall) :: "<p title=\x22b\x22>".toList.map .text := by decide +kernel
  refine ⟨_, hfound ▸ List.mem_singleton_self _, rfl, rfl, ?_⟩
  rintro call inside ⟨start, b, hb, _, quote, _, hs⟩
  have hbody : b.body = openCall := by
    have hmem := hb.mem
    rw [hpieces] at hmem
    rcases List.mem_cons.1 hmem with hblock | htext
    · rw [Piece.block.inj hblock]
      rfl
    · obtain ⟨_, _, hc⟩ := List.mem_map.1 htext
      cases hc
  have hclosed := hs.mem
  rw [hbody, segments_openCall] at hclosed
  simp at hclosed

end Markup

end TwinNode
