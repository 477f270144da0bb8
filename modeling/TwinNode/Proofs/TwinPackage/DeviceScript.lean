import TwinNode.Proofs.TwinPackage.StubScript

namespace TwinNode

open TwinNode.Script (Part Shows blank)
open TwinNode.Text

/-- The first brace is closed by the next one, if there is none between them. -/
theorem closingBrace?_of_braceless {inside : List Char} (h : ∀ c ∈ inside, c ≠ '\x7b' ∧ c ≠ '\x7d')
    (offset : Nat) (rest : List Char) :
    closingBrace? 1 offset (inside ++ '\x7d' :: rest) = some (offset + inside.length) := by
  induction inside generalizing offset with
  | nil => simp [closingBrace?]
  | cons c inside ih =>
    obtain ⟨hopen, hclose⟩ := h c List.mem_cons_self
    have hrest := ih (fun d hd => h d (List.mem_cons_of_mem c hd)) (offset + 1)
    rw [List.cons_append, closingBrace?, if_neg hopen, if_neg hclose, hrest, List.length_cons]
    congr 1
    omega

-- The stretches of the script from left to right, cut at its type name, at its static block and at
-- the call inside.
def deviceLeft (f : Part → List Char) : List Char :=
  ((deviceParts "").take 5).flatMap f ++ "    ".toList

def deviceMiddle : List Char := ";\n".toList ++ "    ".toList

def blockLeft : List Char := "\n".toList ++ "        RED.nodes.".toList

def blockRight : List Char := "this.type, this);\n".toList ++ "    ".toList

def blockInside : List Char := blockLeft ++ ("registerType".toList ++ (['('] ++ blockRight))

def deviceRight : List Char := "\n".toList ++ ((deviceParts "").drop 11).flatMap Part.source

def deviceBlock : List Char :=
  "static".toList ++ ([' ', '\x7b'] ++ (blockInside ++ (['\x7d'] ++ deviceRight)))

theorem deviceParts_flatMap {f : Part → List Char} (hf : ∀ text, f (.plain text) = text)
    (name : String) :
    (deviceParts name).flatMap f =
      deviceLeft f ++ ("static".toList ++ (" type = ".toList ++
        (f (.string name.toList) ++ (deviceMiddle ++ deviceBlock)))) := by
  have hfield : "    static type = ".toList = "    ".toList ++ "static type = ".toList :=
    lit_split rfl
  have hword : "static type = ".toList = "static".toList ++ " type = ".toList := lit_split rfl
  have hblock : "    static \x7b\n".toList = "    ".toList ++ "static \x7b\n".toList :=
    lit_split rfl
  have hstatic : "static \x7b\n".toList = "static".toList ++ " \x7b\n".toList := lit_split rfl
  have hopen : " \x7b\n".toList = " \x7b".toList ++ "\n".toList := lit_split rfl
  have hbrace : " \x7b".toList = [' ', '\x7b'] := lit
  have hcall : "        RED.nodes.registerType(this.type, this);\n".toList =
      "        RED.nodes.".toList ++ "registerType(this.type, this);\n".toList := lit_split rfl
  have hname : "registerType(this.type, this);\n".toList =
      "registerType".toList ++ "(this.type, this);\n".toList := lit_split rfl
  have hargument : "(this.type, this);\n".toList = "(".toList ++ "this.type, this);\n".toList :=
    lit_split rfl
  have hsign : "(".toList = ['('] := lit
  have hend : "    \x7d\n".toList = "    ".toList ++ "\x7d\n".toList := lit_split rfl
  have hclose : "\x7d\n".toList = "\x7d".toList ++ "\n".toList := lit_split rfl
  have hbraceEnd : "\x7d".toList = ['\x7d'] := lit
  unfold deviceLeft deviceMiddle deviceBlock blockInside blockLeft blockRight deviceRight
  simp only [deviceParts, List.take, List.drop, List.flatMap_cons,
    List.flatMap_nil, hf, Part.source, List.append_assoc, List.append_nil, hfield, hword, hblock,
      hstatic, hopen, hbrace, hcall, hname, hargument,
    hsign, hend, hclose, hbraceEnd, -String.reduceToList]

theorem deviceParts_sound {name : String} (h : PlainName name) :
    ∀ p ∈ deviceParts name, p.Sound := by
  simp only [deviceParts, List.forall_mem_cons]
  refine ⟨Part.sound_lit ?_, Part.sound_string ?_, Part.sound_lit ?_, Part.sound_lit ?_,
    Part.sound_lit ?_, Part.sound_lit ?_, unescaped_of_plainName h, Part.sound_lit ?_,
      Part.sound_lit ?_, Part.sound_lit ?_, Part.sound_lit ?_,
    Part.sound_lit ?_, Part.sound_lit ?_, Part.sound_lit ?_, Part.sound_lit ?_, Part.sound_lit ?_,
    List.forall_mem_nil _⟩ <;> decide

theorem deviceParts_unix {name : String} (h : PlainName name) :
    Unix ((deviceParts name).flatMap Part.source) := by
  refine unix_parts ?_
  simp only [deviceParts, List.forall_mem_cons]
  refine ⟨unix_plain ?_, unix_string_lit ?_, unix_plain ?_, unix_plain ?_,
    unix_plain ?_, unix_plain ?_, unix_string (unix_of_plainName h), unix_plain ?_, unix_plain ?_,
      unix_plain ?_, unix_plain ?_,
    unix_plain ?_, unix_plain ?_, unix_plain ?_, unix_plain ?_, unix_plain ?_,
    List.forall_mem_nil _⟩ <;> unfold Unix <;> decide

theorem length_deviceLeft : (deviceLeft Part.shown).length = (deviceLeft Part.source).length := by
  unfold deviceLeft
  simp only [deviceParts, List.take, List.flatMap_cons, List.flatMap_nil, Part.source, Part.shown,
    List.length_append, List.length_cons, List.length_map]

theorem deviceLeft_lines : (deviceLeft Part.source).count '\n' = 3 := by
  have h : deviceLeft Part.source = _ := lit_append (lit_append lit (lit_append Part.source_lit
    (lit_append lit (lit_append lit (lit_append lit rfl))))) lit
  rw [h]
  decide

theorem deviceLeft_lacks :
    (∀ w ∈ ["static", "registerType", "export"], absent w.toList (deviceLeft Part.shown) = true) ∧
      isBoundary (deviceLeft Part.shown).getLast? (some 's') = true := by
  have h : deviceLeft Part.shown = _ := lit_append (lit_append lit (lit_append Part.shown_lit
    (lit_append lit (lit_append lit (lit_append lit rfl))))) lit
  rw [h]
  decide

theorem deviceMiddle_lacks :
    (∀ w ∈ ["static", "registerType", "export"], absent w.toList deviceMiddle = true) ∧
      isBoundary deviceMiddle.getLast? (some 's') = true ∧ deviceMiddle ≠ [] := by
  have h : deviceMiddle = _ := lit_append lit lit
  rw [h]
  decide

theorem blockLeft_lacks :
    (∀ w ∈ ["static", "registerType", "export"], absent w.toList blockLeft = true) ∧
      isBoundary blockLeft.getLast? (some 'r') = true ∧ blockLeft ≠ [] := by
  have h : blockLeft = _ := lit_append lit lit
  rw [h]
  decide

theorem blockRight_lacks :
    (∀ w ∈ ["static", "registerType", "export"], absent w.toList blockRight = true) ∧
      ∃ rest, blockRight = 't' :: rest := by
  have h : blockRight = _ := lit_append lit lit
  rw [h]
  exact ⟨by decide, _, rfl⟩

theorem deviceRight_lacks :
    ∀ w ∈ ["static", "registerType", "export"], absent w.toList deviceRight = true := by
  have h : deviceRight = _ :=
    lit_append lit (lit_append lit (lit_append lit (lit_append lit (lit_append lit
    (lit_append lit rfl)))))
  rw [h]
  decide

theorem blockInside_braceless : ∀ c ∈ blockInside, c ≠ '\x7b' ∧ c ≠ '\x7d' := by
  have h : blockInside = _ :=
    lit_append (lit_append lit lit) (lit_append lit (lit_append rfl (lit_append lit lit)))
  rw [h]
  decide

theorem words_lack :
    (∀ w ∈ ["static", "export"], absent w.toList ("registerType".toList ++ ['(']) = true) ∧
    (∀ w ∈ ["registerType", "export"], absent w.toList "static".toList = true) ∧
    (∀ w ∈ ["static", "registerType", "export"], absent w.toList " type = ".toList = true ∧
      absent w.toList [' ', '\x7b'] = true ∧ absent w.toList ['\x7d'] = true) ∧
    absent "static".toList "tatic".toList = true := by
  decide

theorem blockInside_lacks : ∀ w ∈ ["static", "export"], absent w.toList blockInside = true := by
  intro w hw
  have hw' : w ∈ ["static", "registerType", "export"] := by
    revert w
    decide
  unfold blockInside
  rw [← List.append_assoc "registerType".toList]
  exact absent_append (blockLeft_lacks.1 w hw') (absent_append (words_lack.1 w hw)
    (blockRight_lacks.1 w hw'))

theorem blockEnd_lacks : ∀ w ∈ ["static", "registerType", "export"],
    absent w.toList (['\x7d'] ++ deviceRight) = true := fun w hw =>
  absent_append (words_lack.2.2.1 w hw).2.2 (deviceRight_lacks w hw)

def deviceShown (name : String) : List Char :=
  deviceLeft Part.shown ++ ("static".toList ++ (" type = ".toList ++
    ('\x22' :: (name.toList.map blank ++ '\x22' :: deviceMiddle))))

theorem deviceField_split (name : String) :
    deviceShown name ++ deviceBlock = deviceLeft Part.shown ++
      (("static".toList ++ " type = ".toList) ++
        ('\x22' :: (name.toList.map blank ++ '\x22' :: deviceMiddle) ++ deviceBlock)) := by
  unfold deviceShown
  simp only [List.append_assoc]

theorem deviceShown_last (name : String) : (deviceShown name).getLast? = deviceMiddle.getLast? := by
  have h : deviceShown name = (deviceLeft Part.shown ++ ("static".toList ++ (" type = ".toList ++
      ('\x22' :: (name.toList.map blank ++ ['\x22']))))) ++ deviceMiddle := by
    simp [deviceShown, -String.reduceToList]
  rw [h, List.getLast?_append_of_ne_nil _ deviceMiddle_lacks.2.2]

/-- At a word that stands for two phrases, one of them is not found. -/
theorem silent_static {p : Phrase} (hp : p.opening? = some "static") {cs after : List Char}
    (hc : ∀ before, p.recognise before ("static".toList ++ (cs ++ after)) = none)
    (h : absent "static".toList cs = true) : Silent p.recognise ("static".toList ++ cs) after := by
  have hstatic : "static".toList = 's' :: "tatic".toList := lit_cons
  rw [hstatic] at hc ⊢
  refine Silent.cons (fun before => ?_)
    (Phrase.silent_of_absent hp (absent_append words_lack.2.2.2 h) after)
  have := hc before
  rwa [List.cons_append, ← List.append_assoc] at this

section Device

variable {name : String} (h : PlainName name)
include h

theorem string_lacks {w : String} (hw : w ∈ ["static", "registerType", "export"]) :
    absent w.toList ('\x22' :: (name.toList.map blank ++ '\x22' :: deviceMiddle)) = true := by
  refine absent_string h ?_ (deviceMiddle_lacks.1 w hw)
  revert w
  decide

theorem deviceShown_lacks {w : String} (hw : w ∈ ["registerType", "export"]) :
    absent w.toList (deviceShown name) = true := by
  have hw' : w ∈ ["static", "registerType", "export"] := List.mem_cons_of_mem _ hw
  obtain ⟨_, hstatic, hsigns, _⟩ := words_lack
  exact absent_append (deviceLeft_lacks.1 w hw') (absent_append (hstatic w hw)
    (absent_append (hsigns w hw').1 (string_lacks h hw')))

/-- The field is the one occurrence of its phrase. -/
theorem find_field : occurrences Phrase.staticType.recognise (deviceShown name ++ deviceBlock) =
    [⟨(deviceLeft Part.shown).length, (deviceLeft Part.shown).length + 14⟩] := by
  obtain ⟨hleft, hlast⟩ := deviceLeft_lacks
  obtain ⟨_, _, hsigns, _⟩ := words_lack
  have hblock : Silent Phrase.staticType.recognise deviceBlock [] := by
    refine silent_static rfl (fun before => ?_) (absent_append (hsigns "static" (by decide)).2.1
      (absent_append (blockInside_lacks "static" (by decide))
        (blockEnd_lacks "static" (by decide))))
    rw [List.append_assoc]
    exact Phrase.staticType_ne_block before _
  have hrest : Silent Phrase.staticType.recognise
      ('\x22' :: (name.toList.map blank ++ '\x22' :: deviceMiddle) ++ deviceBlock) [] := by
    rw [← List.append_nil deviceBlock] at hblock ⊢
    refine Silent.append (Phrase.silent_of_absent rfl (string_lacks h (by decide)) _) hblock
  have hhit := @Phrase.recognise_staticType (deviceLeft Part.shown).getLast? '\x22'
    (name.toList.map blank ++ '\x22' :: deviceMiddle ++ deviceBlock) hlast (by decide)
  rw [← List.append_assoc] at hhit
  rw [deviceField_split]
  exact occurrences_one (Phrase.silent_of_absent rfl (hleft "static" (by decide)) _)
    (by simp) hhit hrest

/-- The static block is the one occurrence of its phrase. -/
theorem find_block : occurrences Phrase.staticBlock.recognise (deviceShown name ++ deviceBlock) =
    [⟨(deviceShown name).length, (deviceShown name).length + 8⟩] := by
  obtain ⟨hleft, _⟩ := deviceLeft_lacks
  obtain ⟨_, _, hsigns, _⟩ := words_lack
  have hshown : Silent Phrase.staticBlock.recognise (deviceShown name)
      (("static".toList ++ [' ', '\x7b']) ++ (blockInside ++ (['\x7d'] ++ deviceRight))) := by
    refine Silent.append (Phrase.silent_of_absent rfl (hleft "static" (by decide)) _)
      (silent_static rfl (fun before => ?_)
        (absent_append (hsigns "static" (by decide)).1 (string_lacks h (by decide))))
    rw [List.append_assoc]
    exact Phrase.staticBlock_ne_type before _
  have hlast : isBoundary (deviceShown name).getLast? (some 's') = true := by
    rw [deviceShown_last]
    exact deviceMiddle_lacks.2.1
  have hhit := Phrase.recognise_staticBlock hlast (blockInside ++ (['\x7d'] ++ deviceRight))
  have hrest : Silent Phrase.staticBlock.recognise (blockInside ++ (['\x7d'] ++ deviceRight)) [] :=
    Phrase.silent_of_absent rfl
      (absent_append (blockInside_lacks "static" (by decide)) (blockEnd_lacks "static" (by decide)))
      []
  have hword : ("static".toList ++ [' ', '\x7b']) ++ (blockInside ++ (['\x7d'] ++ deviceRight)) =
      "static".toList ++ ' ' :: '\x7b' :: (blockInside ++ (['\x7d'] ++ deviceRight)) :=
        List.append_assoc _ _ _
  rw [← hword] at hhit
  unfold deviceBlock
  rw [← List.append_assoc "static".toList]
  exact occurrences_one hshown (by simp) hhit hrest

def deviceCallLeft (name : String) : List Char :=
  deviceShown name ++ ("static".toList ++ ([' ', '\x7b'] ++ blockLeft))

omit h in
theorem deviceCall_split (name : String) {tail : List Char}
    (ht : blockRight ++ (['\x7d'] ++ deviceRight) = 't' :: tail) :
    deviceShown name ++ deviceBlock = deviceCallLeft name ++
      ("registerType".toList ++ '(' :: 't' :: tail) := by
  rw [← ht]
  unfold deviceBlock blockInside deviceCallLeft
  simp only [List.append_assoc]
  rfl

/-- The call is the one occurrence of its phrase. -/
theorem find_staticCall {tail : List Char}
    (ht : blockRight ++ (['\x7d'] ++ deviceRight) = 't' :: tail) :
    occurrences Phrase.registerCall.recognise (deviceShown name ++ deviceBlock) =
      [⟨(deviceCallLeft name).length, (deviceCallLeft name).length + 13⟩] := by
  have hw : "registerType" ∈ ["static", "registerType", "export"] := by decide
  obtain ⟨_, hstatic, hsigns, _⟩ := words_lack
  have hleft : absent "registerType".toList (deviceCallLeft name) = true :=
    absent_append (deviceShown_lacks h (by decide)) (absent_append (hstatic _ (by decide))
      (absent_append (hsigns _ hw).2.1 (blockLeft_lacks.1 _ hw)))
  have hlast : (deviceCallLeft name).getLast? = blockLeft.getLast? := by
    unfold deviceCallLeft
    rw [← List.append_assoc, ← List.append_assoc,
      List.getLast?_append_of_ne_nil _ blockLeft_lacks.2.2]
  have hright : absent "registerType".toList ('t' :: tail) = true := by
    rw [← ht]
    exact absent_append (blockRight_lacks.1 _ hw) (blockEnd_lacks _ hw)
  rw [deviceCall_split name ht]
  refine find_call hleft ?_ (by decide) (Phrase.silent_of_absent rfl hright [])
  rw [hlast]
  exact blockLeft_lacks.2.1

end Device

theorem find_defaultExport {name : String} (h : PlainName name) :
    occurrences Phrase.defaultExport.recognise (deviceShown name ++ deviceBlock) = [] := by
  refine Phrase.occurrences_eq_nil fun w hw => ?_
  obtain rfl := List.mem_singleton.1 hw
  obtain ⟨_, hstatic, hsigns, _⟩ := words_lack
  exact absent_append (deviceShown_lacks h (by decide)) (absent_append (hstatic _ (by decide))
    (absent_append (hsigns _ (by decide)).2.1 (absent_append (blockInside_lacks _ (by decide))
      (blockEnd_lacks _ (by decide)))))

/-- There is a registering call between the braces of the static block. -/
theorem staticRegistration?_of_find {v : Views} {name : String}
    (hskeleton : v.skeleton = deviceShown name ++ deviceBlock)
    (hblock : v.find .staticBlock = [⟨(deviceShown name).length, (deviceShown name).length + 8⟩]) :
    v.staticRegistration? = some (deviceShown name).length := by
  obtain ⟨left, hleft⟩ : ∃ left, left = deviceShown name ++ ("static".toList ++ [' ']) := ⟨_, rfl⟩
  have hlength : (deviceShown name).length + 8 - 1 = left.length := by
    rw [hleft, List.length_append]
    rfl
  have hsplit : v.skeleton = left ++ (('\x7b' :: blockInside) ++ '\x7d' :: deviceRight) := by
    rw [hskeleton, hleft]
    unfold deviceBlock
    simp only [List.append_assoc]
    rfl
  have hbrace : matchingBrace? v.skeleton left.length =
      some (left.length + ('\x7b' :: blockInside).length) := by
    unfold matchingBrace?
    rw [hsplit, List.drop_left, List.cons_append, closingBrace?, if_pos rfl, Int.zero_add,
      closingBrace?_of_braceless blockInside_braceless, List.length_cons,
        Nat.add_assoc, Nat.add_comm 1]
  have hcalls : v.findIn .registerCall ⟨left.length, left.length + ('\x7b' :: blockInside).length⟩ ≠
      [] := by
    obtain ⟨rest, hrest⟩ := blockRight_lacks.2
    obtain ⟨hlacks, hlast, hne⟩ := blockLeft_lacks
    have hopen : absent "registerType".toList ['\x7b'] = true := by decide
    have hinside : '\x7b' :: blockInside =
        (['\x7b'] ++ blockLeft) ++ ("registerType".toList ++ '(' :: 't' :: rest) := by
      unfold blockInside
      rw [hrest, List.append_assoc, List.singleton_append, List.singleton_append]
    have hleft : absent "registerType".toList (['\x7b'] ++ blockLeft) = true :=
      absent_append hopen (hlacks _ (by decide))
    have hboundary : isBoundary (['\x7b'] ++ blockLeft).getLast? (some 'r') = true := by
      rw [List.getLast?_append_of_ne_nil _ hne]
      exact hlast
    unfold Views.findIn occurrencesIn
    rw [hsplit, slice_append, hinside]
    exact occurrencesFrom_call_ne_nil (by simp) hleft hboundary (by decide) _ _
  unfold Views.staticRegistration?
  rw [hblock]
  simpa [hlength, hbrace] using hcalls

theorem exists_blockEnd : ∃ tail, blockRight ++ (['\x7d'] ++ deviceRight) = 't' :: tail := by
  obtain ⟨rest, hrest⟩ := blockRight_lacks.2
  exact ⟨_, by rw [hrest, List.cons_append]⟩

def deviceViews (name : String) : Views := Script.views ((deviceParts name).flatMap Part.source)

def deviceField : Span := ⟨(deviceLeft Part.shown).length, (deviceLeft Part.shown).length + 14⟩

def deviceCall (name : String) : Span :=
  ⟨(deviceCallLeft name).length, (deviceCallLeft name).length + 13⟩

section Views

variable {name : String} (h : PlainName name)
include h

theorem deviceViews_eq : deviceViews name = ⟨(deviceParts name).flatMap Part.source,
    (deviceParts name).flatMap Part.source, (deviceParts name).flatMap Part.shown⟩ :=
  Script.views_eq_of_shows (Script.shows_parts (deviceParts_sound h))

theorem deviceViews_skeleton : (deviceViews name).skeleton = deviceShown name ++ deviceBlock := by
  rw [deviceViews_eq h, deviceParts_flatMap (f := Part.shown) (fun _ => rfl)]
  simp only [Part.shown, deviceShown, List.append_assoc, List.cons_append, List.nil_append]

theorem deviceViews_code :
    (deviceViews name).code = deviceLeft Part.source ++ (("static".toList ++ " type = ".toList) ++
    '\x22' :: (name.toList ++ '\x22' :: (deviceMiddle ++ deviceBlock))) := by
  rw [deviceViews_eq h, deviceParts_flatMap (f := Part.source) (fun _ => rfl)]
  simp only [Part.source, List.append_assoc, List.cons_append, List.nil_append]

theorem find_deviceField : (deviceViews name).find .staticType = [deviceField] := by
  unfold Views.find
  rw [deviceViews_skeleton h]
  exact find_field h

theorem find_deviceCall : (deviceViews name).find .registerCall = [deviceCall name] := by
  obtain ⟨tail, htail⟩ := exists_blockEnd
  unfold Views.find
  rw [deviceViews_skeleton h]
  exact find_staticCall h htail

theorem find_deviceExport : (deviceViews name).find .defaultExport = [] := by
  unfold Views.find
  rw [deviceViews_skeleton h]
  exact find_defaultExport h

theorem staticRegistration?_deviceViews :
    (deviceViews name).staticRegistration? = some (deviceShown name).length := by
  refine staticRegistration?_of_find (deviceViews_skeleton h) ?_
  unfold Views.find
  rw [deviceViews_skeleton h]
  exact find_block h

theorem literal?_deviceField : (deviceViews name).literal? deviceField.stop = some name.toList := by
  have hshown : (deviceViews name).skeleton.drop deviceField.stop =
      '\x22' :: (name.toList.map blank ++ '\x22' :: (deviceMiddle ++ deviceBlock)) := by
    have hstring : '\x22' :: (name.toList.map blank ++ '\x22' :: deviceMiddle) ++ deviceBlock =
        '\x22' :: (name.toList.map blank ++ '\x22' :: (deviceMiddle ++ deviceBlock)) := by
      simp only [List.cons_append, List.append_assoc]
    rw [deviceViews_skeleton h, deviceField_split, hstring]
    exact drop_word (deviceLeft Part.shown) ("static".toList ++ " type = ".toList) _
  have hwritten : (deviceViews name).code.drop deviceField.stop =
      '\x22' :: (name.toList ++ '\x22' :: (deviceMiddle ++ deviceBlock)) := by
    unfold deviceField
    rw [deviceViews_code h, length_deviceLeft]
    exact drop_word (deviceLeft Part.source) ("static".toList ++ " type = ".toList) _
  exact Views.literal?_of_drop hshown hwritten (h.not_mem rfl)

theorem location_deviceField : (deviceViews name).location deviceField.start = "line 4" := by
  have htake : (deviceViews name).source.take (deviceLeft Part.shown).length =
      deviceLeft Part.source := by
    rw [length_deviceLeft, deviceViews_eq h, deviceParts_flatMap (f := Part.source) (fun _ => rfl)]
    exact List.take_left
  unfold deviceField
  rw [location_of_take htake, deviceLeft_lines]
  decide

/-- The call is made with the field, not with a literal. -/
theorem registrations_deviceCall (path : String) :
    (deviceViews name).registrations path [deviceCall name] =
      ⟨[], [⟨path, .registrationCall, .form .dynamic, none⟩]⟩ := by
  obtain ⟨tail, htail⟩ := exists_blockEnd
  have hargument : (deviceViews name).skeleton.drop (deviceCall name).stop = 't' :: tail := by
    unfold deviceCall
    rw [deviceViews_skeleton h, deviceCall_split name htail, drop_call]
  have hthis : (deviceViews name).literal? (deviceCall name).stop = none :=
    Views.literal?_of_other hargument rfl
  unfold Views.registrations Views.declaredAfter Views.formAfter Views.literalAfter?
  simp [hthis]

/-- A device script declares its type name in its field, has a static block that registers it, and
exports nothing by default. -/
theorem device_declarations (path : String) : ∃ place,
    deviceDeclarations path (Script.views ((deviceParts name).flatMap Part.source)) =
      ⟨[⟨path, .staticField, name, "line 4"⟩],
        [⟨path, .staticTypeField, .form .literal, none⟩,
          ⟨path, .registrationCall, .form .dynamic, none⟩,
          ⟨path, .usesDefaultExport, .flag false, none⟩,
          ⟨path, .hasStaticRegistration, .flag true, some place⟩]⟩ := by
  refine ⟨(deviceViews name).location (deviceShown name).length, ?_⟩
  show deviceDeclarations path (deviceViews name) = _
  unfold deviceDeclarations
  dsimp only
  rw [find_deviceField h, find_deviceCall h, find_deviceExport h, registrations_deviceCall h,
    declaredAfter_of_literal h (literal?_deviceField h),
      formAfter_of_literal (literal?_deviceField h),
    location_deviceField h, staticRegistration?_deviceViews h]
  rfl

end Views

end TwinNode
