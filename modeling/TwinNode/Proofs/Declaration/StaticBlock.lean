import TwinNode.Proofs.Declaration.Identity
import TwinNode.Proofs.Package.Loading
import TwinNode.Proofs.Scan.Brace
import TwinNode.Proofs.Scan.Window

/-! A device script registers its type in a static block. The blocks are taken one after the
other: one that is never closed, or that holds no registering call, is passed over, and the
first one with a call between its braces is reported. -/

namespace TwinNode

theorem reads_staticBlock {before : Option Char} {cs rest : List Char}
    (h : Phrase.staticBlock.recognise before cs = some rest) :
    ∃ words, cs = words ++ '\x7b' :: rest := by
  obtain ⟨cs₁, h₁, h₂⟩ := Option.bind_eq_some_iff.1 h
  obtain ⟨gap, -, rfl⟩ := Phrase.blanksThen?_eq_some h₂
  refine ⟨"static".toList ++ gap, ?_⟩
  rw [Phrase.wordStart?_eq_some h₁, List.append_assoc]
  rfl

theorem brace_of_mem {text : List Char} {block : Span}
    (h : block ∈ occurrences Phrase.staticBlock.recognise text) :
    block.start < block.stop ∧ text[block.stop - 1]? = some '\x7b' := by
  obtain ⟨left, right, rest, rfl, -, hstart, hr, hstop⟩ := occurs_of_mem h
  obtain ⟨words, rfl⟩ := reads_staticBlock hr
  simp only [List.length_append, List.length_cons] at hstop
  have hlast : block.stop - 1 = (left ++ words).length := by
    simp
    omega
  refine ⟨by omega, ?_⟩
  rw [hlast, ← List.append_assoc]
  simp

namespace Views

/-- A registering call lies between the brace of a static block and the brace that closes it. -/
def Registers (v : Views) (block : Span) : Prop :=
  ∃ close, Closes v.skeleton (block.stop - 1) close ∧
    ∃ call ∈ v.find .registerCall, block.stop ≤ call.start ∧ call.stop ≤ close

variable {v : Views}

theorem registers_iff {block : Span} (hb : block ∈ v.find .staticBlock) :
    (match matchingBrace? v.skeleton (block.stop - 1) with
      | none => false
      | some close =>
        !(v.findIn .registerCall ⟨block.stop - 1, close⟩).isEmpty) = true ↔ v.Registers block := by
  obtain ⟨hlt, hopen⟩ := brace_of_mem hb
  cases hclose : matchingBrace? v.skeleton (block.stop - 1) with
  | none =>
    simp only [Bool.false_eq_true, false_iff]
    rintro ⟨close, hcloses, -⟩
    rw [(matchingBrace?_eq_some_iff hopen).2 hcloses] at hclose
    cases hclose
  | some close =>
    obtain ⟨hle, hbrace⟩ := matchingBrace?_brace hclose
    have hne : block.stop - 1 ≠ close := by
      intro heq
      rw [heq, hbrace] at hopen
      exact absurd hopen (by decide)
    have hcalls : ∀ call, call ∈ v.findIn .registerCall ⟨block.stop - 1, close⟩ ↔
        call ∈ v.find .registerCall ∧ block.stop - 1 < call.start ∧ call.stop ≤ close :=
      fun call => mem_findIn_iff (by omega) hopen hbrace
    simp only [Bool.not_eq_true', List.isEmpty_eq_false_iff_exists_mem, hcalls]
    constructor
    · rintro ⟨call, hin, hlo, hhi⟩
      exact ⟨close, (matchingBrace?_eq_some_iff hopen).1 hclose, call, hin, by omega, hhi⟩
    · rintro ⟨other, hcloses, call, hin, hlo, hhi⟩
      rw [(matchingBrace?_eq_some_iff hopen).2 hcloses, Option.some.injEq] at hclose
      exact ⟨call, hin, by omega, hclose ▸ hhi⟩

theorem staticRegistration?_eq_none_iff :
    v.staticRegistration? = none ↔ ∀ block ∈ v.find .staticBlock, ¬v.Registers block := by
  unfold staticRegistration?
  rw [Option.map_eq_none_iff, List.find?_eq_none]
  exact forall₂_congr fun block hb => not_congr (registers_iff hb)

/-- A block that registers is reported if none before it does. -/
def FirstRegistering (v : Views) (block : Span) : Prop :=
  block ∈ v.find .staticBlock ∧ v.Registers block ∧
    ∀ earlier ∈ v.find .staticBlock, earlier.start < block.start → ¬v.Registers earlier

theorem first_of_staticRegistration? {start : Nat} (h : v.staticRegistration? = some start) :
    ∃ block, v.FirstRegistering block ∧ block.start = start := by
  obtain ⟨block, hfound, rfl⟩ := Option.map_eq_some_iff.1 h
  obtain ⟨hregisters, before, after, hsplit, hbefore⟩ := List.find?_eq_some_iff_append.1 hfound
  have hsorted := occurrencesFrom_pairwise Phrase.staticBlock.recognise none 0 0 v.skeleton
  have hin : block ∈ v.find .staticBlock := List.mem_of_find?_eq_some hfound
  refine ⟨block,
    ⟨hin, (registers_iff hin).1 hregisters, fun earlier hearlier hlt hregisters' => ?_⟩, rfl⟩
  have htrue := (registers_iff hearlier).2 hregisters'
  rw [hsplit, List.mem_append, List.mem_cons] at hearlier
  rcases hearlier with hearlier | rfl | hlater
  · have hfalse := hbefore earlier hearlier
    rw [Bool.not_eq_true'] at hfalse
    exact Bool.false_ne_true (hfalse.symm.trans htrue)
  · exact Nat.lt_irrefl _ hlt
  · -- What comes after the block begins behind it.
    have hsplit : occurrencesFrom Phrase.staticBlock.recognise none 0 0 v.skeleton =
        before ++ block :: after := hsplit
    rw [hsplit] at hsorted
    have hstop := List.rel_of_pairwise_cons (List.pairwise_append.1 hsorted).2.1 hlater
    have hstart := (brace_of_mem hin).1
    omega

theorem staticRegistration?_eq_some_iff {start : Nat} :
    v.staticRegistration? = some start ↔ ∃ block, v.FirstRegistering block ∧
      block.start = start := by
  refine ⟨first_of_staticRegistration?, ?_⟩
  rintro ⟨block, ⟨hin, hregisters, hfirst⟩, rfl⟩
  cases hfound : v.staticRegistration? with
  | none => exact absurd hregisters (staticRegistration?_eq_none_iff.1 hfound block hin)
  | some start =>
    obtain ⟨other, ⟨hin', hregisters', hfirst'⟩, rfl⟩ := first_of_staticRegistration? hfound
    have hle : ¬other.start < block.start := fun hlt => hfirst other hin' hlt hregisters'
    have hge : ¬block.start < other.start := fun hlt => hfirst' block hin hlt hregisters
    rw [Option.some.injEq]
    omega

/-- A fact that tells whether a static block registers the type, and the line of the first one that
does. -/
structure TellsRegistration (v : Views) (fact : Fact) : Prop where
  holds : fact.value = .flag true ↔ ∃ block ∈ v.find .staticBlock, v.Registers block
  fails : fact.value = .flag false ↔ ∀ block ∈ v.find .staticBlock, ¬v.Registers block
  place : ∀ place, fact.location = some place ↔ ∃ block, v.FirstRegistering block ∧
    v.location block.start = place

end Views

theorem factsFor_device (path : String) (v : Views) :
    (deviceDeclarations path v).factsFor path .hasStaticRegistration =
      [⟨path, .hasStaticRegistration, .flag v.staticRegistration?.isSome,
        v.staticRegistration?.map v.location⟩] := by
  simp [FactSet.factsFor, deviceDeclarations, Views.registrations, Views.presence]

theorem tellsRegistration (path : String) (v : Views) : v.TellsRegistration
    ⟨path, .hasStaticRegistration, .flag v.staticRegistration?.isSome,
      v.staticRegistration?.map v.location⟩ where
  holds := by
    rw [FactValue.flag.injEq, ← Option.ne_none_iff_isSome, Ne,
      Views.staticRegistration?_eq_none_iff]
    simp
  fails := by
    rw [FactValue.flag.injEq, Option.isSome_eq_false_iff, Option.isNone_iff_eq_none,
      Views.staticRegistration?_eq_none_iff]
  place place := by
    simp only [Option.map_eq_some_iff, Views.staticRegistration?_eq_some_iff]
    constructor
    · rintro ⟨_, ⟨block, hfirst, rfl⟩, hplace⟩
      exact ⟨block, hfirst, hplace⟩
    · rintro ⟨block, hfirst, hplace⟩
      exact ⟨_, ⟨block, hfirst, rfl⟩, hplace⟩

/-- The brace that is found for an opening one is the only one at the end of a balanced text. So a
device script is noted to register its type in a static block if one of its blocks is closed and has
a registering call between its braces, whatever blocks are before it, and the line is that of the
first such block. -/
theorem static_registration_found :
    (∀ {skeleton : List Char} {start : Nat}, skeleton[start]? = some '\x7b' →
      (∀ close, matchingBrace? skeleton start = some close ↔ Closes skeleton start close) ∧
      (∀ close other, Closes skeleton start close → Closes skeleton start other → close = other) ∧
      (matchingBrace? skeleton start = none ↔ ¬∃ close, Closes skeleton start close)) ∧
    ∀ room settings (a : Artifact), a.Loaded room → a.kind = .deviceScript →
      ∃ fact, (a.declarations settings).factsFor a.path .hasStaticRegistration = [fact] ∧
        (Script.views a.text).TellsRegistration fact := by
  constructor
  · intro skeleton start hopen
    have hfound : ∀ close, matchingBrace? skeleton start = some close ↔
        Closes skeleton start close :=
      fun close => matchingBrace?_eq_some_iff hopen
    refine ⟨hfound, fun close other hclose hother => ?_, ?_⟩
    · exact Option.some.inj (((hfound close).2 hclose).symm.trans ((hfound other).2 hother))
    · simp only [← hfound, Option.eq_none_iff_forall_ne_some, not_exists, ne_eq]
  · intro room settings a ha hkind
    refine ⟨_, ?_, tellsRegistration a.path (Script.views a.text)⟩
    unfold Artifact.declarations
    rw [hkind, ha.script (.inr hkind)]
    exact factsFor_device a.path (Script.views a.text)

def unclosedBlockScript : Artifact :=
  let text := "static \x7b\nstatic \x7b registerType( \x7d".toList
  ⟨.deviceScript, "n.mcu.js", text, .scanned (Script.views text)⟩

theorem static_registration_found_unclosed :
    (Script.views unclosedBlockScript.text).skeleton[16]? = some '\x7b' ∧
    Closes (Script.views unclosedBlockScript.text).skeleton 16 32 ∧ unclosedBlockScript.Loaded 0 ∧
    unclosedBlockScript.kind = .deviceScript ∧
    ∃ fact,
      (unclosedBlockScript.declarations {}).factsFor "n.mcu.js" .hasStaticRegistration = [fact] ∧
      fact.value = .flag true ∧ fact.location = some "line 2" := by
  have hopen : (Script.views unclosedBlockScript.text).skeleton[16]? = some '\x7b' := by
    decide +kernel
  have hcloses := ((static_registration_found.1 hopen).1 32).1 (by decide +kernel)
  obtain ⟨fact, hfact, htells⟩ := static_registration_found.2 0 {} unclosedBlockScript rfl rfl
  have hblocks : (Script.views unclosedBlockScript.text).find .staticBlock = [⟨0, 8⟩, ⟨9, 17⟩] := by
    decide +kernel
  have hregisters : (Script.views unclosedBlockScript.text).Registers ⟨9, 17⟩ :=
    ⟨32, hcloses, ⟨18, 32⟩, by decide +kernel, by decide, by decide⟩
  have hunclosed : ¬(Script.views unclosedBlockScript.text).Registers ⟨0, 8⟩ := by
    rintro ⟨close, hclose, -⟩
    exact (static_registration_found.1 (by decide +kernel)).2.2.1
      (by decide +kernel) ⟨close, hclose⟩
  have hfirst : (Script.views unclosedBlockScript.text).FirstRegistering ⟨9, 17⟩ := by
    refine ⟨by simp [hblocks], hregisters, ?_⟩
    rw [hblocks]
    intro earlier hearlier hlt
    rcases List.mem_pair.1 hearlier with rfl | rfl
    · exact hunclosed
    · exact absurd hlt (by decide)
  exact ⟨hopen, hcloses, rfl, rfl, fact, hfact, htells.holds.2 ⟨_, hfirst.1, hregisters⟩,
    (htells.place "line 2").2 ⟨_, hfirst, by decide +kernel⟩⟩

end TwinNode
