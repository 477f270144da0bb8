import TwinNode.Proofs.Script.Inside

/-! A call registers a type name if its argument begins with a literal. What comes after the
literal is not looked at, so that a larger expression that begins with a literal counts as
this literal. Only where no argument goes on after a literal is every type name the whole
argument of its call. -/

namespace TwinNode.Script

/-- The argument of a call begins with a closed string or template literal. A string does not go on
in the next line. -/
def LeadsWith (text : List Char) (call : Span) (inside : List Char) : Prop :=
  ∃ quote, isQuote quote = true ∧
    StandsAt text call.stop (.literal quote (inside ++ [quote]) true) ∧
    (quote = backtick ∨ '\n' ∉ inside)

/-- After the literal that it begins with, the argument of a call ends. -/
def EndsAfter (text : List Char) (call : Span) (inside : List Char) : Prop :=
  ∃ c, ((skeleton text).drop (call.stop + inside.length + 2)).find? (!Text.isBlank ·) = some c ∧
    (c = ',' ∨ c = ')')

theorem literal?_eq_some_iff {text inside : List Char} {call : Span}
    (hcall : call ∈ (views text).find .registerCall) :
    (views text).literal? call.stop = some inside ↔ LeadsWith text call inside := by
  constructor
  · intro hread
    obtain ⟨quote, hq, hshown⟩ := quote_of_literal? hread
    obtain ⟨_, tail, closed, hs⟩ := opensAt_of_quote (.inl rfl) hcall hshown hq
    rw [literal?_of_standsAt hs hq] at hread
    split at hread
    · next hclosed =>
      obtain ⟨rfl, hline⟩ := hclosed
      obtain ⟨_, _, _, hcut, _⟩ := hs.drop
      cases hcut with
      | @closed _ body _ _ =>
        rw [List.dropLast_concat] at hread
        obtain rfl := Option.some.inj hread
        exact ⟨quote, hq, hs, hline.imp_right fun hin hn => hin (List.mem_append_left _ hn)⟩
    · cases hread
  · rintro ⟨quote, hq, hs, hline⟩
    exact literal?_of_closed hs hq hline

theorem isSome_literal?_iff {text : List Char} {call : Span}
    (hcall : call ∈ (views text).find .registerCall) :
    ((views text).literalAfter? call.stop).isSome = true ↔
      ∃ inside, LeadsWith text call inside := by
  unfold Views.literalAfter?
  rw [Option.isSome_map, Option.isSome_iff_exists]
  exact exists_congr fun inside => literal?_eq_some_iff hcall

/-- What is known of the calls in a script. -/
structure Registers (text : List Char) (path : String) (known : FactSet) : Prop where
  /-- The type names are the literals that arguments begin with, in the lines of their calls. -/
  names : ∀ i, i ∈ known.identities ∧ i.role = .registrationCall ↔
    ∃ call ∈ (views text).find .registerCall, ∃ inside, LeadsWith text call inside ∧
      i = ⟨path, .registrationCall, String.ofList (Text.trim inside),
        (views text).location call.start⟩
  literal : known.form path .registrationCall = .literal ↔
    ∃ call ∈ (views text).find .registerCall, ∃ inside, LeadsWith text call inside
  missing : known.form path .registrationCall = .missing ↔ (views text).find .registerCall = []

theorem formAfter_eq_literal_iff {v : Views} {occurrences : List Span} :
    v.formAfter occurrences = .literal ↔
      ∃ o ∈ occurrences, (v.literalAfter? o.stop).isSome = true := by
  unfold Views.formAfter
  cases occurrences with
  | nil => simp
  | cons o rest =>
    rw [List.isEmpty_cons, if_neg Bool.false_ne_true, ← List.any_eq_true]
    split <;> simp_all

theorem formAfter_eq_missing_iff {v : Views} {occurrences : List Span} :
    v.formAfter occurrences = .missing ↔ occurrences = [] := by
  unfold Views.formAfter
  cases occurrences with
  | nil => simp
  | cons o rest =>
    rw [List.isEmpty_cons, if_neg Bool.false_ne_true]
    split <;> simp

theorem Registers.of_calls {text : List Char} {path : String} {known : FactSet}
    (hnames : ∀ i, i ∈ known.identities ∧ i.role = .registrationCall ↔
      i ∈ (views text).declaredAfter path .registrationCall ((views text).find .registerCall))
    (hform : known.form path .registrationCall = (views text).formAfter
      ((views text).find .registerCall)) :
    Registers text path known where
  names i := by
    rw [hnames, Views.mem_declaredAfter]
    refine exists_congr fun call => and_congr_right fun hcall => ?_
    constructor
    · rintro ⟨_, hread, rfl⟩
      obtain ⟨inside, hinside, rfl⟩ := Option.map_eq_some_iff.1 hread
      exact ⟨inside, (literal?_eq_some_iff hcall).1 hinside, rfl⟩
    · rintro ⟨inside, hleads, rfl⟩
      exact ⟨Text.trim inside, congrArg (Option.map Text.trim)
        ((literal?_eq_some_iff hcall).2 hleads), rfl⟩
  literal := by
    rw [hform, formAfter_eq_literal_iff]
    exact exists_congr fun call => and_congr_right isSome_literal?_iff
  missing := by
    rw [hform, formAfter_eq_missing_iff]

section Declarations

variable (settings : RuleSettings) (path : String) (text : List Char)

theorem registers_stub : Registers text path (stubDeclarations settings path (views text)) := by
  refine .of_calls (fun i => ?_) ?_
  · rw [stubDeclarations_identities]
    exact and_iff_left_of_imp fun hi => (declaredAt_of_call hi).1
  · simp [FactSet.form, FactSet.fact?, FactSet.factsFor, stubDeclarations,
      Views.registrations, Views.presence]

theorem registers_device : Registers text path (deviceDeclarations path (views text)) := by
  refine .of_calls (fun i => ?_) ?_
  · rw [deviceDeclarations_identities, List.mem_append]
    constructor
    · rintro ⟨hi | hi, hrole⟩
      · obtain ⟨_, _, _, _, rfl⟩ := Views.mem_declaredAfter.1 hi
        cases hrole
      · exact hi
    · exact fun hi => ⟨.inr hi, (declaredAt_of_call hi).1⟩
  · simp [FactSet.form, FactSet.fact?, FactSet.factsFor, deviceDeclarations,
      Views.registrations, Views.presence]

end Declarations

/-- The argument of a call is one literal. -/
def WholeArgument (text : List Char) (call : Span) (inside : List Char) : Prop :=
  LeadsWith text call inside ∧ EndsAfter text call inside

/-- No argument of a call goes on after a literal that it begins with. -/
def NoneGoesOn (text : List Char) : Prop :=
  ∀ call ∈ (views text).find .registerCall, ∀ inside, LeadsWith text call inside →
    EndsAfter text call inside

/-- Of the calls in a script, exactly those with one literal as their argument register type
names. -/
structure RegistersWhole (text : List Char) (path : String) (known : FactSet) : Prop where
  names : ∀ i ∈ known.identities, i.role = .registrationCall →
    ∃ call ∈ (views text).find .registerCall, ∃ inside, WholeArgument text call inside ∧
      i.value = String.ofList (Text.trim inside) ∧
      i.location = (views text).location call.start
  dynamic : known.form path .registrationCall = .dynamic ↔ (views text).find .registerCall ≠ [] ∧
    ¬∃ call ∈ (views text).find .registerCall, ∃ inside, WholeArgument text call inside

theorem Registers.whole {text : List Char} {path : String} {known : FactSet}
    (h : Registers text path known) (hends : NoneGoesOn text) : RegistersWhole text path known where
  names i hi hrole := by
    obtain ⟨call, hcall, inside, hleads, rfl⟩ := (h.names i).1 ⟨hi, hrole⟩
    exact ⟨call, hcall, inside, ⟨hleads, hends call hcall inside hleads⟩, rfl, rfl⟩
  dynamic := by
    have hwhole : (∃ call ∈ (views text).find .registerCall, ∃ inside, LeadsWith text call inside) ↔
        ∃ call ∈ (views text).find .registerCall, ∃ inside, WholeArgument text call inside :=
      exists_congr fun call => and_congr_right fun hcall => exists_congr fun inside =>
        ⟨fun hleads => ⟨hleads, hends call hcall inside hleads⟩, And.left⟩
    have hdynamic : known.form path .registrationCall = .dynamic ↔
        known.form path .registrationCall ≠ .missing ∧
          known.form path .registrationCall ≠ .literal := by
      cases known.form path .registrationCall <;> simp
    rw [hdynamic, Ne, Ne, h.missing, h.literal, hwhole]

/-- In every host stub and every device script, the type names that calls register are the literals
that their arguments begin with, whatever comes after them. The form of the calls is that of a
literal if an argument begins with one. If no argument goes on after such a literal, then each type
name is the whole argument of its call, and the calls are dynamic if there are any and none of them
has one literal as its argument. -/
theorem registered_by_leading_literals (settings : RuleSettings)
    (path : String) (text : List Char) :
    Registers text path (stubDeclarations settings path (views text)) ∧
      Registers text path (deviceDeclarations path (views text)) ∧
      (NoneGoesOn text → RegistersWhole text path (stubDeclarations settings path (views text)) ∧
        RegistersWhole text path (deviceDeclarations path (views text))) := by
  have hstub := registers_stub settings path text
  have hdevice := registers_device path text
  exact ⟨hstub, hdevice, fun hends => ⟨hstub.whole hends, hdevice.whole hends⟩⟩

section OneCall

variable {text : List Char} {call : Span} {name : List Char}
  (hcalls : (views text).find .registerCall = [call])
  (hread : (views text).literal? call.stop = some name)
include hcalls hread

/-- A call whose argument begins with a literal, if it is the only one. -/
theorem leadsWith_iff_of_one {inside : List Char} : LeadsWith text call inside ↔ inside = name := by
  have hcall : call ∈ (views text).find .registerCall := hcalls ▸ List.mem_singleton_self call
  rw [← literal?_eq_some_iff hcall, hread, Option.some.injEq, eq_comm]

theorem noneGoesOn_of_one (hends : EndsAfter text call name) : NoneGoesOn text := by
  intro other hother inside hleads
  rw [hcalls, List.mem_singleton] at hother
  subst hother
  obtain rfl := (leadsWith_iff_of_one hcalls hread).1 hleads
  exact hends

end OneCall

theorem registered_by_leading_literals_whole :
    let text := "registerType(\x22a\x22)".toList
    NoneGoesOn text ∧ RegistersWhole text "a.js" (stubDeclarations {} "a.js" (views text)) := by
  have hcalls : (views "registerType(\x22a\x22)".toList).find .registerCall = [⟨0, 13⟩] := by
    decide +kernel
  have hread : (views "registerType(\x22a\x22)".toList).literal? 13 = some ['a'] := by
    decide +kernel
  have hnone := noneGoesOn_of_one hcalls hread ⟨')', by decide +kernel, .inr rfl⟩
  exact ⟨hnone, ((registered_by_leading_literals {} "a.js" _).2.2 hnone).1⟩

/-- The argument of a call goes on after a literal, and the literal is registered. -/
theorem registered_by_part :
    let text := "registerType(\x22a\x22 + b)".toList
    let known := stubDeclarations {} "a.js" (views text)
    (⟨"a.js", .registrationCall, "a", "line 1"⟩ : Identity) ∈ known.identities ∧
      known.form "a.js" .registrationCall = .literal ∧ ¬RegistersWhole text "a.js" known := by
  have hcalls : (views "registerType(\x22a\x22 + b)".toList).find .registerCall = [⟨0, 13⟩] := by
    decide +kernel
  have hread : (views "registerType(\x22a\x22 + b)".toList).literal? 13 = some ['a'] := by
    decide +kernel
  have hname : (⟨"a.js", .registrationCall, "a", "line 1"⟩ : Identity) ∈
      (stubDeclarations {} "a.js" (views "registerType(\x22a\x22 + b)".toList)).identities := by
    rw [stubDeclarations_identities, Views.mem_declaredAfter, hcalls]
    exact ⟨⟨0, 13⟩, List.mem_singleton_self _, ['a'], congrArg (Option.map Text.trim) hread, rfl⟩
  refine ⟨hname, ?_, fun hwhole => ?_⟩
  · refine (registers_stub {} "a.js" _).literal.2 ⟨⟨0, 13⟩, ?_, ['a'],
      (leadsWith_iff_of_one hcalls hread).2 rfl⟩
    rw [hcalls]
    exact List.mem_singleton_self _
  · obtain ⟨call, hcall, inside, ⟨hleads, c, hnext, hc⟩, _⟩ := hwhole.names _ hname rfl
    rw [hcalls, List.mem_singleton] at hcall
    subst hcall
    obtain rfl := (leadsWith_iff_of_one hcalls hread).1 hleads
    have hplus :
      ((skeleton "registerType(\x22a\x22 + b)".toList).drop (13 + ['a'].length + 2)).find?
        (!Text.isBlank ·) = some '+' := by decide +kernel
    obtain rfl : c = '+' := Option.some.inj (hnext.symm.trans hplus)
    exact absurd hc (by decide)

end TwinNode.Script
