import TwinNode.Proofs.Rule.Identity
import TwinNode.Proofs.Scan.Search
import TwinNode.Proofs.Script.ReadBack
import TwinNode.Proofs.TwinPackage.Files

namespace TwinNode

open TwinNode.Script (Part Shows Delimits Unescaped blank)
open TwinNode.Text

/-- A string on one line is read at its opening quote. -/
theorem Views.literal?_of_drop {v : Views} {offset : Nat} {inside shownRest codeRest : List Char}
    (hskeleton : v.skeleton.drop offset = '\x22' :: (inside.map blank ++ '\x22' :: shownRest))
    (hcode : v.code.drop offset = '\x22' :: (inside ++ codeRest)) (h : '\n' ∉ inside) :
    v.literal? offset = some inside := by
  have hinside : (inside.map blank ++ '\x22' :: shownRest).takeWhile (· != '\x22') =
      inside.map blank := by
    rw [Script.takeWhile_blanks (.inl (by rfl))]
    simp
  have hrest : v.code.drop (offset + 1) = inside ++ codeRest := by
    rw [← List.drop_drop, hcode]
    rfl
  unfold Views.literal?
  rw [hskeleton]
  dsimp only
  rw [hinside, hrest, Script.contains_newline_blanks]
  simp [Script.isQuote_iff, h]

theorem Views.literal?_of_other {v : Views} {offset : Nat} {c : Char} {rest : List Char}
    (h : v.skeleton.drop offset = c :: rest) (hc : Script.isQuote c = false) :
    v.literal? offset = none := by
  unfold Views.literal?
  rw [h]
  simp [hc]

section Names

variable {name : String} (h : PlainName name)
include h

theorem unescaped_of_plainName : Unescaped name.toList := fun c hc =>
  ⟨plain_ne (h.plain c hc) rfl, plain_ne (h.plain c hc) rfl, plain_ne (h.plain c hc) rfl⟩

theorem blanks_of_plainName : name.toList.map blank = List.replicate name.toList.length ' ' := by
  refine List.eq_replicate_iff.2 ⟨List.length_map _, fun c hc => ?_⟩
  obtain ⟨d, hd, rfl⟩ := List.mem_map.1 hc
  exact blank_of_plain (h.plain d hd)

variable {v : Views} {path : String} {role : IdentityRole} {o : Span}
  (hl : v.literal? o.stop = some name.toList)
include hl

theorem declaredAfter_of_literal :
    v.declaredAfter path role [o] = [⟨path, role, name, v.location o.start⟩] := by
  have htrim : v.literalAfter? o.stop = some name.toList := by
    unfold Views.literalAfter?
    rw [hl, Option.map_some, trim_of_plain h.plain]
  simp [Views.declaredAfter, htrim, String.ofList_toList]

omit h in
theorem formAfter_of_literal : v.formAfter [o] = .literal :=
  Views.formAfter_eq_literal_iff.2 ⟨o, List.mem_singleton_self o, by rw [hl]; rfl⟩

end Names

theorem unix_of_plainName {name : String} (h : PlainName name) : Unix name.toList := fun c hc =>
  ⟨toNat_lt_of_plain (h.plain c hc), plain_ne (h.plain c hc) rfl⟩

theorem unix_quote : Unix ['\x22'] := .cons (by decide) (List.forall_mem_nil _)

theorem unix_plain {cs : List Char} (h : Unix cs) :
    Unix (Part.plain (String.ofList cs).toList).source := by
  rw [Part.source, lit]
  exact h

theorem unix_string {inside : List Char} (h : Unix inside) : Unix (Part.string inside).source :=
  .cons (by decide) (h.append unix_quote)

theorem unix_string_lit {cs : List Char} (h : Unix cs) :
    Unix (Part.string (String.ofList cs).toList).source := by
  rw [lit]
  exact unix_string h

theorem unix_parts {parts : List Part} (h : ∀ p ∈ parts, Unix p.source) :
    Unix (parts.flatMap Part.source) := by
  intro c hc
  obtain ⟨p, hp, hc⟩ := List.mem_flatMap.1 hc
  exact h p hp c hc

theorem location_of_take {v : Views} {o : Nat} {left : List Char} (h : v.source.take o = left) :
    v.location o = "line " ++ toString (left.count '\n' + 1) := by
  unfold Views.location Views.lineOf
  rw [h]

/-- A word is absent from a blanked string if it is from what follows. -/
theorem absent_string {word right : List Char} {name : String} (h : PlainName name)
    (hword : word.head?.any (fun n => n != '\x22' && n != ' ') = true)
    (hright : absent word right = true) :
    absent word ('\x22' :: (name.toList.map blank ++ '\x22' :: right)) = true := by
  cases word with
  | nil => simp at hword
  | cons n word =>
    simp only [List.head?_cons, Option.any_some, Bool.and_eq_true, bne_iff_ne] at hword
    have hquote : absent (n :: word) ['\x22'] = true := absent_of_not_mem (by simpa using hword.1)
    have hblanks : absent (n :: word) (name.toList.map blank) = true := by
      refine absent_of_not_mem fun hm => ?_
      rw [blanks_of_plainName h] at hm
      exact hword.2 (List.eq_of_mem_replicate hm)
    exact absent_append hquote (absent_append hblanks (absent_append hquote hright))

theorem call_split (rest : List Char) :
    "registerType".toList ++ '(' :: rest = ("registerType".toList ++ ['(']) ++ rest := by
  rw [List.append_assoc]
  rfl

theorem find_call {left rest : List Char} {c : Char}
    (hleft : absent "registerType".toList left = true)
    (hlast : isBoundary left.getLast? (some 'r') = true) (hc : isBlank c = false)
    (hrest : Silent Phrase.registerCall.recognise (c :: rest) []) :
    occurrences Phrase.registerCall.recognise
      (left ++ ("registerType".toList ++ '(' :: c :: rest)) =
        [⟨left.length, left.length + 13⟩] := by
  have hhit := @Phrase.recognise_registerCall left.getLast? c rest hlast hc
  rw [call_split] at hhit ⊢
  exact occurrences_one (Phrase.silent_of_absent rfl hleft _) (by simp) hhit hrest

theorem occurrencesFrom_call_ne_nil {left rest : List Char} {c : Char} (hne : left ≠ [])
    (hleft : absent "registerType".toList left = true)
    (hlast : isBoundary left.getLast? (some 'r') = true) (hc : isBlank c = false)
    (before : Option Char) (offset : Nat) :
    occurrencesFrom Phrase.registerCall.recognise before offset 0
      (left ++ ("registerType".toList ++ '(' :: c :: rest)) ≠ [] := by
  have hbefore : left.getLast?.or before = left.getLast? := by
    rw [List.getLast?_eq_some_getLast hne]
    rfl
  have hhit := @Phrase.recognise_registerCall left.getLast? c rest hlast hc
  rw [call_split] at hhit ⊢
  rw [occurrencesFrom_silent (Phrase.silent_of_absent rfl hleft _), hbefore,
    occurrencesFrom_hit (by simp) hhit]
  exact List.cons_ne_nil _ _

def stubLeft : List Char := ((stubParts "").take 4).flatMap Part.source ++ "    RED.nodes.".toList

def stubRight : List Char := ((stubParts "").drop 6).flatMap Part.source

theorem stubLeft_lacks :
    (∀ w ∈ ["registerType", "import", "require", "from"], absent w.toList stubLeft = true) ∧
    isBoundary stubLeft.getLast? (some 'r') = true ∧ stubLeft.count '\n' = 4 := by
  have h : stubLeft = _ :=
    lit_append (lit_append lit (lit_append lit (lit_append lit (lit_append lit rfl)))) lit
  rw [h]
  decide

theorem stubRight_lacks :
    ∀ w ∈ ["registerType", "import", "require", "from"], absent w.toList stubRight = true := by
  have h : stubRight = _ := lit_append lit (lit_append lit rfl)
  rw [h]
  decide

theorem stubParts_flatMap {f : Part → List Char} (hf : ∀ text, f (.plain text) = text)
    (name : String) :
    (stubParts name).flatMap f =
      stubLeft ++ ("registerType".toList ++ '(' :: (f (.string name.toList) ++ stubRight)) := by
  have hcall : "    RED.nodes.registerType(".toList = "    RED.nodes.".toList ++
      "registerType(".toList := lit_split rfl
  have hword : "registerType(".toList = "registerType".toList ++ "(".toList := lit_split rfl
  simp only [stubParts, stubLeft, stubRight, List.take, List.drop,
    List.flatMap_cons, List.flatMap_nil, hf, Part.source, List.append_assoc, List.append_nil, hcall,
      hword, -String.reduceToList]
  rfl

theorem stubParts_sound {name : String} (h : PlainName name) : ∀ p ∈ stubParts name, p.Sound := by
  simp only [stubParts, List.forall_mem_cons]
  refine ⟨Part.sound_lit ?_, Part.sound_lit ?_, Part.sound_lit ?_,
    Part.sound_lit ?_, Part.sound_lit ?_, unescaped_of_plainName h, Part.sound_lit ?_,
      Part.sound_lit ?_, List.forall_mem_nil _⟩ <;> decide

theorem stubParts_unix {name : String} (h : PlainName name) :
    Unix ((stubParts name).flatMap Part.source) := by
  refine unix_parts ?_
  simp only [stubParts, List.forall_mem_cons]
  refine ⟨unix_plain ?_, unix_plain ?_, unix_plain ?_, unix_plain ?_, unix_plain ?_,
    unix_string (unix_of_plainName h), unix_plain ?_, unix_plain ?_, List.forall_mem_nil _⟩
      <;> unfold Unix <;> decide

theorem drop_word (left word rest : List Char) :
    (left ++ (word ++ rest)).drop (left.length + word.length) = rest := by
  rw [← List.append_assoc, ← List.length_append, List.drop_left]

theorem drop_call (left rest : List Char) :
    (left ++ ("registerType".toList ++ '(' :: rest)).drop (left.length + 13) = rest :=
  drop_word left "registerType(".toList rest

def stubViews (name : String) : Views := Script.views ((stubParts name).flatMap Part.source)

def stubCall : Span := ⟨stubLeft.length, stubLeft.length + 13⟩

section Stub

variable {name : String} (h : PlainName name)
include h

theorem stubViews_eq : stubViews name =
    ⟨(stubParts name).flatMap Part.source, (stubParts name).flatMap Part.source,
      (stubParts name).flatMap Part.shown⟩ :=
  Script.views_eq_of_shows (Script.shows_parts (stubParts_sound h))

theorem stubViews_skeleton : (stubViews name).skeleton = stubLeft ++ ("registerType".toList ++
    '(' :: '\x22' :: (name.toList.map blank ++ '\x22' :: stubRight)) := by
  rw [stubViews_eq h, stubParts_flatMap (f := Part.shown) (fun _ => rfl)]
  simp [Part.shown]

theorem stubViews_code : (stubViews name).code = stubLeft ++ ("registerType".toList ++
    '(' :: '\x22' :: (name.toList ++ '\x22' :: stubRight)) := by
  rw [stubViews_eq h, stubParts_flatMap (f := Part.source) (fun _ => rfl)]
  simp [Part.source]

theorem stubViews_lacks {w : String} (hw : w ∈ ["import", "require", "from"]) :
    absent w.toList (stubViews name).skeleton = true := by
  have hw' : w ∈ ["registerType", "import", "require", "from"] := List.mem_cons_of_mem _ hw
  have hcall : absent w.toList ("registerType".toList ++ ['(']) = true ∧
      w.toList.head?.any (fun n => n != '\x22' && n != ' ') = true := by
    revert w
    decide
  rw [stubViews_skeleton h, call_split]
  exact absent_append (stubLeft_lacks.1 w hw')
    (absent_append hcall.1 (absent_string h hcall.2 (stubRight_lacks w hw')))

theorem find_stubCall : (stubViews name).find .registerCall = [stubCall] := by
  obtain ⟨hleft, hlast, _⟩ := stubLeft_lacks
  unfold Views.find stubCall
  rw [stubViews_skeleton h]
  refine find_call (hleft _ List.mem_cons_self) hlast (by decide) ?_
  refine Phrase.silent_of_absent rfl (absent_string h (by decide) ?_) _
  exact stubRight_lacks _ List.mem_cons_self

theorem literal?_stubCall : (stubViews name).literal? stubCall.stop = some name.toList := by
  unfold stubCall
  exact Views.literal?_of_drop (by rw [stubViews_skeleton h, drop_call])
    (by rw [stubViews_code h, drop_call]) (h.not_mem rfl)

theorem location_stubCall : (stubViews name).location stubCall.start = "line 5" := by
  have htake : (stubViews name).source.take stubLeft.length = stubLeft := by
    rw [stubViews_eq h, stubParts_flatMap (f := Part.source) (fun _ => rfl), List.take_left]
  unfold stubCall
  rw [location_of_take htake, stubLeft_lacks.2.2]
  decide

theorem find_stubViews_eq_nil {q : Phrase} (hq : ∀ w ∈ q.words, w ∈ ["import", "require", "from"]) :
    (stubViews name).find q = [] :=
      Phrase.occurrences_eq_nil fun w hw => stubViews_lacks h (hq w hw)

theorem modulePlaces_stubViews : (stubViews name).modulePlaces = [] := by
  rw [Views.modulePlaces, find_stubViews_eq_nil h (q := .moduleCall) (by decide),
    find_stubViews_eq_nil h (q := .moduleFrom) (by decide)]
  rfl

/-- A stub declares its type name, and nothing that it should not. -/
theorem stub_declarations (path : String) :
    stubDeclarations {} path (Script.views ((stubParts name).flatMap Part.source)) =
      ⟨[⟨path, .registrationCall, name, "line 5"⟩],
        [⟨path, .registrationCall, .form .literal, none⟩,
          ⟨path, .usesImportStatement, .flag false, none⟩,
            ⟨path, .referencesDeviceModule, .flag false, none⟩]⟩ := by
  have himport : (stubViews name).find .importStatement = [] := find_stubViews_eq_nil h (by decide)
  show stubDeclarations {} path (stubViews name) = _
  unfold stubDeclarations Views.registrations Views.modulePlace?
  rw [find_stubCall h, himport, modulePlaces_stubViews h,
    declaredAfter_of_literal h (literal?_stubCall h), formAfter_of_literal (literal?_stubCall h),
      location_stubCall h]
  rfl

end Stub

end TwinNode
