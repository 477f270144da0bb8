import TwinNode.Proofs.Markup.Block
import TwinNode.Proofs.TwinPackage.StubScript

namespace TwinNode

open TwinNode.Markup (Block Piece foldLetter)
open TwinNode.Script (Part Shows blank)
open TwinNode.Text

def namedAttributes (attr name : String) : List Char :=
  " type=\x22text/html\x22 ".toList ++ nameAttribute attr name

theorem text_attributes_eq {value rest : List Char} (h : "text/html".toList = value) :
    " type=\x22text/html\x22 ".toList ++ rest = " type=\x22".toList ++
      (value ++ '\x22' :: ' ' :: rest) := by
  have hsplit : " type=\x22text/html\x22 ".toList = " type=\x22".toList ++
      "text/html\x22 ".toList := lit_split rfl
  have hvalue : "text/html\x22 ".toList = "text/html".toList ++ "\x22 ".toList := lit_split rfl
  have hend : "\x22 ".toList = ['\x22', ' '] := lit
  rw [hsplit, hvalue, hend, h, List.append_assoc, List.append_assoc]
  rfl

theorem isJavaScript_named (attr name : String) :
    Markup.isJavaScript (namedAttributes attr name) = false := by
  have hbare : Markup.Bare "text/html".toList := by
    rw [show "text/html".toList = _ from lit]
    unfold Markup.Bare
    decide
  have hne : "text/html".toList ≠ [] := by simp
  unfold Markup.isJavaScript namedAttributes
  rw [text_attributes_eq rfl, Markup.typeValue?_first hbare hne]
  decide

theorem isJavaScript_script :
    Markup.isJavaScript " type=\x22text/javascript\x22".toList = true := by
  have hsplit : " type=\x22text/javascript\x22".toList = " type=\x22".toList ++
      ("text/javascript".toList ++ ['\x22']) := by
    rw [show " type=\x22text/javascript\x22".toList = _ from lit,
      show " type=\x22".toList = _ from lit,
      show "text/javascript".toList = _ from lit]
    rfl
  have hbare : Markup.Bare "text/javascript".toList := by
    rw [show "text/javascript".toList = _ from lit]
    unfold Markup.Bare
    decide
  have hne : "text/javascript".toList ≠ [] := by simp
  unfold Markup.isJavaScript
  rw [hsplit, Markup.typeValue?_first hbare hne]
  decide

def markupPieces (script : List Char) (name : String) : List Piece := [
  .block (Block.written " type=\x22text/javascript\x22".toList script), .text '\n', .text '\n',
  .block (Block.written (namedAttributes "data-template-name" name) templateBody),
    .text '\n', .text '\n',
  .block (Block.written (namedAttributes "data-help-name" name) helpBody), .text '\n']

theorem bodies_lack : absent "</script".toList (templateBody.map foldLetter) = true ∧
    absent "</script".toList (helpBody.map foldLetter) = true := by
  have ht : templateBody = _ :=
    lit_append (lit_append (lit_append (lit_append lit lit) lit) lit) lit
  have hh : helpBody = _ := lit_append lit lit
  rw [ht, hh]
  decide

theorem attributes_closed :
    (" type=\x22text/html\x22 ".toList.head? = some ' ' ∧ '>' ∉ " type=\x22text/html\x22 ".toList) ∧
    (" type=\x22text/javascript\x22".toList.head? = some ' ' ∧
      '>' ∉ " type=\x22text/javascript\x22".toList) ∧
    '>' ∉ "data-template-name".toList ∧ '>' ∉ "data-help-name".toList ∧ isWord ' ' = false := by
  decide

theorem namedAttributes_head (attr name : String) :
    (namedAttributes attr name).head?.any isWord = false := by
  obtain ⟨⟨hhead, _⟩, _, _, _, hspace⟩ := attributes_closed
  unfold namedAttributes
  rw [List.head?_append, hhead, Option.some_or, Option.any_some, hspace]

theorem namedAttributes_closed {attr name : String} (h : PlainName name) (ha : '>' ∉ attr.toList) :
    '>' ∉ namedAttributes attr name := by
  obtain ⟨⟨_, hopen⟩, _⟩ := attributes_closed
  unfold namedAttributes nameAttribute
  simp only [List.mem_append, List.mem_cons, List.not_mem_nil, not_or, hopen, ha,
    h.not_mem (d := '>') rfl, not_false_eq_true, and_true, true_and]
  decide

theorem pieces_named {attr name : String} (h : PlainName name)
    (ha : '>' ∉ attr.toList) {body : List Char}
    (hb : absent "</script".toList (body.map foldLetter) = true) (rest : List Char) :
    Markup.pieces (namedBlock attr name body ++ rest) =
      .block (Block.written (namedAttributes attr name) body) :: Markup.pieces rest :=
  Markup.pieces_written (namedAttributes_head attr name) (namedAttributes_closed h ha) hb rest

theorem pieces_script {script : List Char}
    (hs : absent "</script".toList (script.map foldLetter) = true)
    (rest : List Char) :
    Markup.pieces (scriptBlock " type=\x22text/javascript\x22".toList script ++ rest) =
      .block (Block.written " type=\x22text/javascript\x22".toList script) ::
        Markup.pieces rest := by
  obtain ⟨_, ⟨hhead, hopen⟩, _, _, hspace⟩ := attributes_closed
  refine Markup.pieces_written ?_ hopen hs rest
  rw [hhead, Option.any_some, hspace]

theorem pieces_markup {script : List Char} {name : String} (h : PlainName name)
    (hs : absent "</script".toList (script.map foldLetter) = true) :
    Markup.pieces (markupAround script name) = markupPieces script name := by
  obtain ⟨htemplate, hhelp⟩ := bodies_lack
  obtain ⟨_, _, ht, hh, _⟩ := attributes_closed
  have hline : ∀ rest, Markup.pieces ('\n' :: rest) = .text '\n' :: Markup.pieces rest :=
    fun rest =>
    Markup.pieces_text (by decide) rest
  unfold markupAround
  rw [pieces_script hs, hline, hline, pieces_named h ht htemplate, hline,
    hline, pieces_named h hh hhelp, hline, Markup.pieces, markupPieces]

-- The script from left to right, cut at its call and at the word for a manifest.
def editorLeft : List Char := "\n".toList ++ "    RED.nodes.".toList

def markerLeft (f : Part → List Char) : List Char :=
  (((editorParts "").drop 3).take 8).flatMap f ++ "            ".toList

def markerRight (f : Part → List Char) : List Char :=
  ": \x7bvalue: \x7binclude: ".toList ++ ((editorParts "").drop 12).flatMap f

def editorRight (f : Part → List Char) : List Char :=
  markerLeft f ++ ("moddable_manifest".toList ++ markerRight f)

theorem editorParts_flatMap {f : Part → List Char} (hf : ∀ text, f (.plain text) = text)
    (name : String) :
    (editorParts name).flatMap f =
      editorLeft ++
        ("registerType".toList ++ (['('] ++ (f (.string name.toList) ++ editorRight f))) := by
  have hcall : "    RED.nodes.registerType(".toList = "    RED.nodes.".toList ++
      "registerType(".toList := lit_split rfl
  have hword : "registerType(".toList = "registerType".toList ++ "(".toList := lit_split rfl
  have hsign : "(".toList = ['('] := lit
  have hfield : "            moddable_manifest: \x7bvalue: \x7binclude: ".toList =
      "            ".toList ++ "moddable_manifest: \x7bvalue: \x7binclude: ".toList := lit_split rfl
  have hmarker : "moddable_manifest: \x7bvalue: \x7binclude: ".toList =
      "moddable_manifest".toList ++ ": \x7bvalue: \x7binclude: ".toList := lit_split rfl
  unfold editorLeft editorRight markerLeft markerRight
  simp only [editorParts, List.drop, List.take, List.flatMap_cons,
    List.flatMap_nil, hf, List.append_assoc, List.append_nil, hcall, hword, hsign, hfield,
      hmarker, -String.reduceToList]

theorem editorParts_sound {name : String} (h : PlainName name) :
    ∀ p ∈ editorParts name, p.Sound := by
  simp only [editorParts, List.forall_mem_cons]
  refine ⟨Part.sound_lit ?_, Part.sound_lit ?_, unescaped_of_plainName h,
    Part.sound_lit ?_, Part.sound_lit ?_, Part.sound_string ?_, Part.sound_lit ?_,
      Part.sound_lit ?_, Part.sound_lit ?_, List.forall_mem_nil _,
    Part.sound_lit ?_, Part.sound_lit ?_, Part.sound_string ?_,
      Part.sound_lit ?_, Part.sound_lit ?_,
    Part.sound_lit ?_, Part.sound_lit ?_, Part.sound_lit ?_, Part.sound_string ?_,
      Part.sound_lit ?_,
    Part.sound_lit ?_, List.forall_mem_nil _⟩ <;> decide

theorem editorParts_unix {name : String} (h : PlainName name) :
    Unix ((editorParts name).flatMap Part.source) := by
  refine unix_parts ?_
  simp only [editorParts, List.forall_mem_cons]
  refine ⟨unix_plain ?_, unix_plain ?_, unix_string (unix_of_plainName h),
    unix_plain ?_, unix_plain ?_, unix_string_lit ?_, unix_plain ?_, unix_plain ?_, unix_plain ?_,
      unix_string (List.forall_mem_nil _),
    unix_plain ?_, unix_plain ?_, unix_string_lit ?_, unix_plain ?_, unix_plain ?_,
    unix_plain ?_, unix_plain ?_, unix_plain ?_, unix_string_lit ?_, unix_plain ?_,
    unix_plain ?_, List.forall_mem_nil _⟩ <;> unfold Unix <;> decide

theorem editorLeft_lacks :
    absent "registerType".toList editorLeft = true ∧
      isBoundary editorLeft.getLast? (some 'r') = true ∧
      editorLeft ≠ [] ∧ editorLeft.count '\n' = 1 ∧ '<' ∉ editorLeft ∧ '!' ∉ editorLeft := by
  have h : editorLeft = _ := lit_append lit lit
  rw [h]
  decide

theorem marker_lacks :
    (∀ w ∈ ["registerType", "data-template-name", "data-help-name"],
      absent w.toList "moddable_manifest".toList = true) ∧
      isBoundary "moddable_manifest".toList.getLast? (some ':') = true ∧
      "moddable_manifest".toList.head? = some 'm' ∧ '<' ∉ "moddable_manifest".toList ∧
      '!' ∉ "moddable_manifest".toList := by
  decide

theorem markerLeft_lacks :
    (∀ w ∈ ["registerType", "data-template-name", "data-help-name"],
      absent w.toList (markerLeft Part.shown) = true) ∧
      '<' ∉ markerLeft Part.source ∧ '!' ∉ markerLeft Part.source ∧
      isBoundary (markerLeft Part.source).getLast? (some 'm') = true ∧
        markerLeft Part.source ≠ [] := by
  have hshown : markerLeft Part.shown = _ :=
    lit_append (lit_append lit (lit_append lit (lit_append Part.shown_lit
    (lit_append lit (lit_append lit (lit_append lit (lit_append rfl (lit_append lit rfl)))))))) lit
  have hsource : markerLeft Part.source = _ :=
    lit_append (lit_append lit (lit_append lit (lit_append Part.source_lit
    (lit_append lit (lit_append lit (lit_append lit (lit_append rfl (lit_append lit rfl)))))))) lit
  rw [hshown, hsource]
  decide

theorem markerRight_lacks :
    (∀ w ∈ ["registerType", "data-template-name", "data-help-name"],
      absent w.toList (markerRight Part.shown) = true) ∧
      '<' ∉ markerRight Part.source ∧ '!' ∉ markerRight Part.source ∧
      (markerRight Part.source).head? = some ':' := by
  have hshown : markerRight Part.shown = _ :=
    lit_append lit (lit_append Part.shown_lit (lit_append lit (lit_append lit
    (lit_append lit
      (lit_append lit (lit_append lit (lit_append Part.shown_lit (lit_append lit (lit_append lit
    rfl)))))))))
  have hsource : markerRight Part.source = _ :=
    lit_append lit (lit_append Part.source_lit (lit_append lit (lit_append lit
    (lit_append lit
      (lit_append lit (lit_append lit (lit_append Part.source_lit (lit_append lit (lit_append lit
    rfl)))))))))
  rw [hshown, hsource]
  decide

-- The markup around the script, cut at the attributes that carry names.
def scriptTag : List Char := "<script".toList ++ (" type=\x22text/javascript\x22".toList ++ ['>'])

def markupLeft : List Char := scriptTag ++ editorLeft

def nextTag : List Char :=
  "</script>".toList ++ (['\n', '\n'] ++ ("<script".toList ++ " type=\x22text/html\x22 ".toList))

def markupMiddle : List Char := ['>'] ++ (templateBody ++ nextTag)

def markupRight : List Char := ['>'] ++ (helpBody ++ ("</script>".toList ++ ['\n']))

theorem scriptBlock_eq (attributes body : List Char) :
    scriptBlock attributes body = "<script".toList ++
      (attributes ++ (['>'] ++ (body ++ "</script>".toList))) :=
  List.append_assoc _ _ _

def markupEnd (name : String) : List Char :=
  nameAttribute "data-template-name" name ++
    (markupMiddle ++ (nameAttribute "data-help-name" name ++ markupRight))

theorem markupAround_eq (script : List Char) (name : String) :
    markupAround script name = scriptTag ++ (script ++ (nextTag ++ markupEnd name)) := by
  have hlines :
    markupAround script name = scriptBlock " type=\x22text/javascript\x22".toList script ++
      (['\n', '\n'] ++ (namedBlock "data-template-name" name templateBody ++
        (['\n', '\n'] ++ (namedBlock "data-help-name" name helpBody ++ ['\n'])))) := rfl
  rw [hlines]
  unfold namedBlock scriptTag markupEnd markupMiddle nextTag markupRight
  simp only [scriptBlock_eq, List.append_assoc]

theorem markupAround_call {f : Part → List Char} (hf : ∀ text, f (.plain text) = text)
    (name : String) :
    markupAround ((editorParts name).flatMap f) name = markupLeft ++ ("registerType".toList ++
      '(' :: (f (.string name.toList) ++ editorRight f ++ (nextTag ++ markupEnd name))) := by
  rw [markupAround_eq, editorParts_flatMap hf]
  unfold markupLeft
  simp only [List.append_assoc]
  rfl

theorem markup_lacks :
    (∀ w ∈ ["registerType", "data-template-name", "data-help-name"],
      absent w.toList nextTag = true ∧
      absent w.toList markupMiddle = true ∧ absent w.toList markupRight = true) ∧
    (∀ w ∈ ["data-template-name", "data-help-name"], absent w.toList markupLeft = true ∧
      absent w.toList ("registerType".toList ++ ['(']) = true) ∧
    absent "registerType".toList markupLeft = true ∧
    nextTag.getLast? = some ' ' ∧ markupMiddle.getLast? = some ' ' ∧ markupLeft.count '\n' = 1 ∧
    '!' ∉ scriptTag ∧ '!' ∉ nextTag ∧ '!' ∉ markupMiddle ∧ '!' ∉ markupRight ∧
    Unix scriptTag ∧ Unix nextTag ∧ Unix markupMiddle ∧ Unix markupRight := by
  have ht : templateBody = _ :=
    lit_append (lit_append (lit_append (lit_append lit lit) lit) lit) lit
  have hh : helpBody = _ := lit_append lit lit
  have htag : nextTag = _ := lit_append lit (lit_append rfl (lit_append lit lit))
  have hopen : scriptTag = _ := lit_append lit (lit_append lit rfl)
  have hleft : markupLeft = _ := lit_append hopen (lit_append lit lit)
  have hmiddle : markupMiddle = _ := lit_append rfl (lit_append ht htag)
  have hright : markupRight = _ := lit_append rfl (lit_append hh (lit_append lit rfl))
  rw [htag, hleft, hmiddle, hright, hopen]
  unfold Unix
  decide +kernel

theorem code_written (attributes body : List Char) :
    (Piece.block (Block.written attributes body)).code =
      (Block.written attributes
        (if Markup.isJavaScript attributes then Script.code body else body)).source := rfl

theorem skeleton_written (attributes body : List Char) :
    (Piece.block (Block.written attributes body)).skeleton =
      (Block.written attributes
        (if Markup.isJavaScript attributes then Script.skeleton body else body)).source := rfl

theorem markup_spans (script : List Char) (name : String) :
    Markup.javaScriptSpansFrom 0 (markupPieces script name) =
      [⟨scriptTag.length, scriptTag.length + script.length⟩] := by
  have hstart : (Block.written " type=\x22text/javascript\x22".toList script).bodyStart =
      scriptTag.length := by
    unfold scriptTag
    rw [List.length_append, List.length_append, ← Nat.add_assoc]
    rfl
  unfold markupPieces
  rw [Markup.javaScriptSpansFrom_script _ _ isJavaScript_script, Markup.javaScriptSpansFrom_text,
    Markup.javaScriptSpansFrom_text, Markup.javaScriptSpansFrom_other _ _ (isJavaScript_named _ _),
    Markup.javaScriptSpansFrom_text, Markup.javaScriptSpansFrom_text,
    Markup.javaScriptSpansFrom_other _ _ (isJavaScript_named _ _), Markup.javaScriptSpansFrom_text,
      hstart, Nat.zero_add]
  rfl

theorem nameAttribute_split (attr name : String) :
    nameAttribute attr name = (attr.toList ++ ['=', '\x22']) ++ (name.toList ++ ['\x22']) := by
  unfold nameAttribute
  rw [List.append_assoc]
  rfl

/-- The name in an attribute is none of the words that are searched for, whatever it spells. -/
theorem silent_nameAttribute {p : Phrase} {word : String} {sign : Char}
    (hp : p.opening? = some word) (hs : p.sign? = some sign) {attr name : String}
    (ha : absent word.toList (attr.toList ++ ['=', '\x22']) = true)
    (hq : absent word.toList ['\x22'] = true) (h : PlainName name) (after : List Char) :
    Silent p.recognise (nameAttribute attr name) after := by
  rw [nameAttribute_split]
  refine Silent.append (Phrase.silent_of_absent hp ha _)
    (Silent.append ?_ (Phrase.silent_of_absent hp hq _))
  exact Phrase.silent_of_plain hs h.plain after

theorem attributes_lack :
    (∀ a ∈ ["data-template-name", "data-help-name"],
      absent "registerType".toList (a.toList ++ ['=', '\x22']) = true) ∧
    absent "data-template-name".toList ("data-help-name".toList ++ ['=', '\x22']) = true ∧
    absent "data-help-name".toList ("data-template-name".toList ++ ['=', '\x22']) = true ∧
    (∀ w ∈ ["registerType", "data-template-name", "data-help-name"],
      absent w.toList ['\x22'] = true) := by
  decide

theorem markupLeft_last : markupLeft.getLast? = editorLeft.getLast? := by
  unfold markupLeft
  rw [List.getLast?_append_of_ne_nil _ editorLeft_lacks.2.2.1]

theorem nameAttribute_ne_nil (attr name : String) : nameAttribute attr name ≠ [] :=
  List.append_ne_nil_of_right_ne_nil _ (List.cons_ne_nil _ _)

theorem recognise_nameAttribute {attr name : String} (h : PlainName name)
    (ha : attr.toList.head? = some 'd') (cs : List Char) :
    Phrase.attribute? attr (some ' ') (nameAttribute attr name ++ cs) = some cs := by
  have htext : nameAttribute attr name ++ cs = attr.toList ++ '=' :: '\x22' ::
      (name.toList ++ '\x22' :: cs) := by
    unfold nameAttribute
    simp
  have hhead : (attr.toList ++ '=' :: '\x22' :: (name.toList ++ '\x22' :: cs)).head? =
      some 'd' := by
    rw [List.head?_append, ha, Option.some_or]
  rw [htext]
  exact Phrase.recognise_attribute cs (by rw [hhead]; decide) (h.not_mem rfl)

theorem marker_found (name : String) (before : Option Char) (offset : Nat) :
    (findMarkerFrom "moddable_manifest".toList before offset
      ((editorParts name).flatMap Part.source)).isSome = true := by
  obtain ⟨_, _, _, hlast, hne⟩ := markerLeft_lacks
  obtain ⟨_, hend, hhead, _⟩ := marker_lacks
  obtain ⟨_, _, _, hright⟩ := markerRight_lacks
  obtain ⟨left, hleft⟩ : ∃ left, left = editorLeft ++ ("registerType".toList ++ (['('] ++
    ((Part.string name.toList).source ++ markerLeft Part.source))) := ⟨_, rfl⟩
  have hsplit : (editorParts name).flatMap Part.source =
      left ++ ("moddable_manifest".toList ++ markerRight Part.source) := by
    rw [editorParts_flatMap (fun _ => rfl), hleft, editorRight]
    simp only [List.append_assoc]
  have hleftLast : left.getLast? = (markerLeft Part.source).getLast? := by
    rw [hleft, ← List.append_assoc, ← List.append_assoc, ← List.append_assoc,
      List.getLast?_append_of_ne_nil _ hne]
  have hopen : isBoundary (left.getLast?.or before)
      ("moddable_manifest".toList ++ markerRight Part.source).head? = true := by
    rw [hleftLast, List.getLast?_eq_some_getLast hne, Option.some_or,
      List.head?_append, hhead, Option.some_or, ← List.getLast?_eq_some_getLast hne]
    exact hlast
  have hclose : isBoundary ("moddable_manifest".toList.getLast?.or (left.getLast?.or before))
      (markerRight Part.source).head? = true := by
    have hword : "moddable_manifest".toList ≠ [] := fun hn => by rw [hn] at hhead; cases hhead
    rw [hright, List.getLast?_eq_some_getLast hword, Option.some_or,
      ← List.getLast?_eq_some_getLast hword]
    exact hend
  rw [hsplit]
  exact findMarkerFrom_isSome hopen hclose offset

def markupViews (name : String) : Views :=
  ⟨markupAround ((editorParts name).flatMap Part.source) name,
    markupAround ((editorParts name).flatMap Part.source) name,
      markupAround ((editorParts name).flatMap Part.shown) name⟩

def markupScript (name : String) : Span :=
  ⟨scriptTag.length, scriptTag.length + ((editorParts name).flatMap Part.source).length⟩

def markupCall : Span := ⟨markupLeft.length, markupLeft.length + 13⟩

section Markup

variable {name : String} (h : PlainName name)
include h

theorem editorRight_lacks {w : String}
    (hw : w ∈ ["registerType", "data-template-name", "data-help-name"]) :
    absent w.toList ((Part.string name.toList).shown ++ editorRight Part.shown) = true := by
  have hword : w.toList.head?.any (fun n => n != '\x22' && n != ' ') = true := by
    revert w
    decide
  exact absent_append (absent_string h hword rfl) (absent_append (markerLeft_lacks.1 w hw)
    (absent_append (marker_lacks.1 w hw) (markerRight_lacks.1 w hw)))

theorem script_closed : '<' ∉ (editorParts name).flatMap Part.source ∧
    '!' ∉ (editorParts name).flatMap Part.source := by
  obtain ⟨_, _, _, _, htag, hcomment⟩ := editorLeft_lacks
  obtain ⟨_, htagLeft, hcommentLeft, _⟩ := markerLeft_lacks
  obtain ⟨_, _, _, htagMarker, hcommentMarker⟩ := marker_lacks
  obtain ⟨_, htagRight, hcommentRight, _⟩ := markerRight_lacks
  have hword : '<' ∉ "registerType".toList ∧ '!' ∉ "registerType".toList := by decide
  have hname : '<' ∉ name.toList ∧ '!' ∉ name.toList := ⟨h.not_mem rfl, h.not_mem rfl⟩
  rw [editorParts_flatMap (fun _ => rfl), editorRight, Part.source]
  constructor
  · simp only [List.mem_append, List.mem_cons, List.not_mem_nil, not_or, htag, hword.1,
      hname.1, htagLeft, htagMarker, htagRight, not_false_eq_true, and_true, true_and]
    decide
  · simp only [List.mem_append, List.mem_cons, List.not_mem_nil, not_or, hcomment,
      hword.2, hname.2, hcommentLeft, hcommentMarker, hcommentRight,
        not_false_eq_true, and_true, true_and]
    decide

theorem nameAttribute_plain {attr : String} (ha : '!' ∉ attr.toList) :
    '!' ∉ nameAttribute attr name := by
  unfold nameAttribute
  simp only [List.mem_append, List.mem_cons, List.not_mem_nil, not_or, ha, h.not_mem (d := '!') rfl,
    not_false_eq_true, true_and, and_true]
  decide

theorem nameAttribute_unix {attr : String} (ha : Unix attr.toList) :
    Unix (nameAttribute attr name) :=
  ha.append (.cons (by decide) (.cons (by decide) ((unix_of_plainName h).append unix_quote)))

theorem markup_unix : Unix (markupAround ((editorParts name).flatMap Part.source) name) := by
  obtain ⟨_, _, _, _, _, _, _, _, _, _, hleft, htag, hmiddle, hright⟩ := markup_lacks
  have htemplate : Unix (nameAttribute "data-template-name" name) :=
    nameAttribute_unix h (by unfold Unix; decide)
  have hhelp : Unix (nameAttribute "data-help-name" name) :=
    nameAttribute_unix h (by unfold Unix; decide)
  rw [markupAround_eq, markupEnd]
  exact hleft.append ((editorParts_unix h).append (htag.append (htemplate.append (hmiddle.append
    (hhelp.append hright)))))

theorem markup_uncommented : '!' ∉ markupAround ((editorParts name).flatMap Part.source) name := by
  have hscript := (script_closed h).2
  obtain ⟨_, _, _, _, _, _, hleft, htag, hmiddle, hright, _⟩ := markup_lacks
  have htemplate := @nameAttribute_plain name h "data-template-name" (by decide)
  have hhelp := @nameAttribute_plain name h "data-help-name" (by decide)
  rw [markupAround_eq, markupEnd]
  simp only [List.mem_append, not_or]
  exact ⟨hleft, hscript, htag, htemplate, hmiddle, hhelp, hright⟩

omit h in
theorem skeleton_pieces {script shown : List Char} (hs : Script.skeleton script = shown) :
    (markupPieces script name).flatMap Piece.skeleton = markupAround shown name := by
  unfold markupPieces
  simp only [List.flatMap_cons, List.flatMap_nil, skeleton_written, isJavaScript_script,
    isJavaScript_named, if_true, Bool.false_eq_true, if_false, hs, List.append_nil]
  rfl

omit h in
theorem code_pieces {script : List Char} (hs : Script.code script = script) :
    (markupPieces script name).flatMap Piece.code = markupAround script name := by
  unfold markupPieces
  simp only [List.flatMap_cons, List.flatMap_nil, code_written, isJavaScript_script,
    isJavaScript_named, if_true, Bool.false_eq_true, if_false, hs, List.append_nil]
  rfl

theorem markup_views : Markup.views (markupAround ((editorParts name).flatMap Part.source) name) =
    markupViews name := by
  have hshows := Script.shows_parts (editorParts_sound h)
  have habsent := Markup.absent_of_tagless (script_closed h).1
  unfold Markup.views
  rw [Markup.blankComments_eq_self (markup_uncommented h), pieces_markup h habsent]
  dsimp only
  rw [code_pieces (Script.code_eq_of_shows hshows),
    skeleton_pieces (Script.skeleton_eq_of_shows hshows)]
  rfl

def markupStart (name : String) : List Char :=
  markupLeft ++
    ("registerType".toList ++
      (['('] ++ ((Part.string name.toList).shown ++ editorRight Part.shown)) ++
    nextTag)

omit h in
theorem markup_skeleton : markupAround ((editorParts name).flatMap Part.shown) name =
    markupStart name ++ markupEnd name := by
  rw [markupAround_call (fun _ => rfl), markupStart]
  simp only [List.append_assoc]
  rfl

theorem markupStart_lacks {w : String} (hw : w ∈ ["data-template-name", "data-help-name"]) :
    absent w.toList (markupStart name) = true := by
  have hw' : w ∈ ["registerType", "data-template-name", "data-help-name"] :=
    List.mem_cons_of_mem _ hw
  obtain ⟨htags, hcalls, _⟩ := markup_lacks
  obtain ⟨hleft, hcall⟩ := hcalls w hw
  unfold markupStart
  rw [← List.append_assoc "registerType".toList]
  exact absent_append hleft (absent_append (absent_append hcall (editorRight_lacks h hw'))
    (htags w hw').1)

omit h in
theorem markupStart_last : (markupStart name).getLast? = some ' ' := by
  obtain ⟨_, _, _, hlast, _⟩ := markup_lacks
  have hne : nextTag ≠ [] := fun hn => by rw [hn] at hlast; cases hlast
  unfold markupStart
  rw [← List.append_assoc, List.getLast?_append_of_ne_nil _ hne, hlast]

theorem find_editorCall : occurrences Phrase.registerCall.recognise
    (markupStart name ++ markupEnd name) = [⟨markupLeft.length, markupLeft.length + 13⟩] := by
  obtain ⟨htags, _, hleft, _⟩ := markup_lacks
  obtain ⟨htag, hmiddle, hright⟩ := htags "registerType" (by decide)
  obtain ⟨hattributes, _, _, hquote⟩ := attributes_lack
  have hq := hquote "registerType" (by decide)
  have hend : Silent Phrase.registerCall.recognise (markupEnd name) [] := by
    refine Silent.append (silent_nameAttribute rfl rfl (hattributes _ (by decide)) hq h _) ?_
    refine Silent.append (Phrase.silent_of_absent rfl hmiddle _) ?_
    exact Silent.append (silent_nameAttribute rfl rfl (hattributes _ (by decide)) hq h _)
      (Phrase.silent_of_absent rfl hright _)
  obtain ⟨after, hafter⟩ : ∃ after, (Part.string name.toList).shown ++ editorRight Part.shown ++
    (nextTag ++ markupEnd name) = '\x22' :: after := ⟨_, rfl⟩
  have hrest : Silent Phrase.registerCall.recognise ('\x22' :: after) [] := by
    rw [← hafter]
    refine Silent.append (Phrase.silent_of_absent rfl (editorRight_lacks h (by decide)) _) ?_
    exact Silent.append (Phrase.silent_of_absent rfl htag _) hend
  rw [← markup_skeleton, markupAround_call (fun _ => rfl), hafter]
  exact find_call hleft (by rw [markupLeft_last]; exact editorLeft_lacks.2.1) (by decide) hrest

theorem find_template : occurrences Phrase.templateName.recognise
    (markupStart name ++ markupEnd name) = [⟨(markupStart name).length,
      (markupStart name).length + (nameAttribute "data-template-name" name).length⟩] := by
  obtain ⟨htags, _⟩ := markup_lacks
  obtain ⟨_, hmiddle, hright⟩ := htags "data-template-name" (by decide)
  obtain ⟨_, htemplate, _, hquote⟩ := attributes_lack
  have hrest : Silent Phrase.templateName.recognise
      (markupMiddle ++ (nameAttribute "data-help-name" name ++ markupRight)) [] := by
    refine Silent.append (Phrase.silent_of_absent rfl hmiddle _) ?_
    exact Silent.append (silent_nameAttribute rfl rfl htemplate (hquote _ (by decide)) h _)
      (Phrase.silent_of_absent rfl hright _)
  have hhit : Phrase.templateName.recognise (markupStart name).getLast?
      (nameAttribute "data-template-name" name ++
        (markupMiddle ++ (nameAttribute "data-help-name" name ++ markupRight))) =
      some (markupMiddle ++ (nameAttribute "data-help-name" name ++ markupRight)) := by
    rw [markupStart_last]
    exact recognise_nameAttribute h rfl _
  exact occurrences_one (Phrase.silent_of_absent rfl (markupStart_lacks h (by decide)) _)
    (nameAttribute_ne_nil _ name) hhit hrest

omit h in
theorem markupHelp_split : markupStart name ++ markupEnd name = (markupStart name ++
    (nameAttribute "data-template-name" name ++ markupMiddle)) ++
      (nameAttribute "data-help-name" name ++ markupRight) := by
  unfold markupEnd
  simp only [List.append_assoc]

theorem find_help : occurrences Phrase.helpName.recognise (markupStart name ++ markupEnd name) =
    [⟨(markupStart name ++ (nameAttribute "data-template-name" name ++ markupMiddle)).length,
      (markupStart name ++ (nameAttribute "data-template-name" name ++ markupMiddle)).length +
        (nameAttribute "data-help-name" name).length⟩] := by
  obtain ⟨htags, _, _, _, hlast, _⟩ := markup_lacks
  obtain ⟨_, hmiddle, hright⟩ := htags "data-help-name" (by decide)
  obtain ⟨_, _, hhelp, hquote⟩ := attributes_lack
  have hleft : Silent Phrase.helpName.recognise (markupStart name ++
    (nameAttribute "data-template-name" name ++ markupMiddle))
      (nameAttribute "data-help-name" name ++ markupRight) := by
    refine Silent.append (Phrase.silent_of_absent rfl (markupStart_lacks h (by decide)) _) ?_
    exact Silent.append (silent_nameAttribute rfl rfl hhelp (hquote _ (by decide)) h _)
      (Phrase.silent_of_absent rfl hmiddle _)
  have hne : markupMiddle ≠ [] := fun hn => by rw [hn] at hlast; cases hlast
  have hhit : Phrase.helpName.recognise
      (markupStart name ++ (nameAttribute "data-template-name" name ++ markupMiddle)).getLast?
      (nameAttribute "data-help-name" name ++ markupRight) = some markupRight := by
    rw [← List.append_assoc, List.getLast?_append_of_ne_nil _ hne, hlast]
    exact recognise_nameAttribute h rfl _
  rw [markupHelp_split]
  exact occurrences_one hleft (nameAttribute_ne_nil _ name) hhit
    (Phrase.silent_of_absent rfl hright _)

omit h in
theorem scriptEnd_le : (markupScript name).stop ≤ (markupStart name).length := by
  unfold markupScript
  rw [← Script.length_shown, editorParts_flatMap (fun _ => rfl)]
  unfold markupStart markupLeft
  simp only [List.length_append]
  omega

omit h in
theorem call_inside : (markupScript name).contains markupCall.start = true := by
  unfold Span.contains markupScript markupCall markupLeft
  rw [editorParts_flatMap (fun _ => rfl), Bool.and_eq_true, decide_eq_true_eq, decide_eq_true_eq]
  simp only [List.length_append, List.length_singleton]
  omega

/-- The type name in an attribute outside of the script. -/
theorem attributeIdentities_of_find {v : Views} {p : Phrase} {attr : String}
    {left right : List Char} {script : Span}
    (ha : ∀ c ∈ attr.toList, Phrase.isStringQuote c = false)
    (hskeleton : v.skeleton = left ++ (nameAttribute attr name ++ right))
    (hfind : v.find p = [⟨left.length, left.length + (nameAttribute attr name).length⟩])
    (hafter : script.stop ≤ left.length) (path : String) (role : IdentityRole) :
    v.attributeIdentities path role p [script] = [⟨path, role, name, v.location left.length⟩] := by
  have hout : script.contains left.length = false := by
    unfold Span.contains
    rw [Bool.and_eq_false_iff]
    right
    simpa using hafter
  have hvalue : Phrase.attributeValue (nameAttribute attr name) = name.toList :=
    Phrase.attributeValue_written ha name.toList
  unfold Views.attributeIdentities
  rw [hfind]
  simp [hout, hskeleton, slice_append, hvalue, trim_of_plain h.plain]

theorem javaScriptSpans_markupViews : (markupViews name).javaScriptSpans = [markupScript name] := by
  unfold Views.javaScriptSpans markupViews
  dsimp only
  rw [pieces_markup h (Markup.absent_of_tagless (script_closed h).1), markup_spans]
  rfl

theorem find_markupCall :
    ((markupViews name).find .registerCall).filter
      (fun o => [markupScript name].any (·.contains o.start)) = [markupCall] := by
  have hfind : (markupViews name).find .registerCall = [markupCall] := by
    unfold Views.find markupViews
    dsimp only
    rw [markup_skeleton, find_editorCall h]
    rfl
  rw [hfind]
  simp [call_inside]

theorem literal?_markupCall : (markupViews name).literal? markupCall.stop = some name.toList := by
  have hshown : (markupViews name).skeleton.drop markupCall.stop =
      '\x22' :: (name.toList.map blank ++ '\x22' ::
        (editorRight Part.shown ++ (nextTag ++ markupEnd name))) := by
    unfold markupViews markupCall
    dsimp only
    rw [markupAround_call (fun _ => rfl), drop_call]
    simp [Part.shown]
  have hwritten : (markupViews name).code.drop markupCall.stop =
      '\x22' ::
        (name.toList ++ '\x22' :: (editorRight Part.source ++ (nextTag ++ markupEnd name))) := by
    unfold markupViews markupCall
    dsimp only
    rw [markupAround_call (fun _ => rfl), drop_call]
    simp [Part.source]
  exact Views.literal?_of_drop hshown hwritten (h.not_mem rfl)

omit h in
theorem location_markupCall : (markupViews name).location markupCall.start = "line 2" := by
  obtain ⟨_, _, _, _, _, hline, _⟩ := markup_lacks
  have htake : (markupViews name).source.take markupLeft.length = markupLeft := by
    unfold markupViews
    dsimp only
    rw [markupAround_call (fun _ => rfl), List.take_left]
  unfold markupCall
  rw [location_of_take htake, hline]
  decide

omit h in
theorem exists_marker :
    ∃ marker, findMarker? "moddable_manifest".toList (markupViews name).code (markupScript name) =
      some marker := by
  refine Option.isSome_iff_exists.1 ?_
  unfold findMarker? markupViews markupScript
  dsimp only
  rw [markupAround_eq, slice_append]
  exact marker_found name _ _

theorem attributeIdentities_template (path : String) :
    (markupViews name).attributeIdentities path .templateName .templateName [markupScript name] =
      [⟨path, .templateName, name, (markupViews name).location (markupStart name).length⟩] := by
  have hfind : (markupViews name).find .templateName = _ :=
    (congrArg _ markup_skeleton).trans (find_template h)
  exact attributeIdentities_of_find h (by decide) markup_skeleton hfind
    scriptEnd_le path .templateName

theorem attributeIdentities_help (path : String) :
    (markupViews name).attributeIdentities path .helpName .helpName [markupScript name] =
      [⟨path, .helpName, name, (markupViews name).location (markupStart name ++
        (nameAttribute "data-template-name" name ++ markupMiddle)).length⟩] := by
  have hfind : (markupViews name).find .helpName = _ :=
    (congrArg _ markup_skeleton).trans (find_help h)
  refine attributeIdentities_of_find h (by decide) (markup_skeleton.trans markupHelp_split) hfind ?_
    path .helpName
  rw [List.length_append]
  exact Nat.le_add_right_of_le scriptEnd_le

/-- The markup declares its type name three times, and declares a manifest. -/
theorem markup_declarations (path : String) : ∃ template help marker,
    markupDeclarations {} path
      (Markup.views (markupAround ((editorParts name).flatMap Part.source) name)) =
      ⟨[⟨path, .registrationCall, name, "line 2"⟩, ⟨path, .templateName, name, template⟩,
          ⟨path, .helpName, name, help⟩],
        [⟨path, .registrationCall, .form .literal, none⟩,
          ⟨path, .declaresManifestInclude, .flag true, some marker⟩]⟩ := by
  obtain ⟨marker, hmarker⟩ := @exists_marker name
  rw [markup_views h]
  refine ⟨(markupViews name).location (markupStart name).length,
    (markupViews name).location (markupStart name ++
      (nameAttribute "data-template-name" name ++ markupMiddle)).length,
    (markupViews name).location marker, ?_⟩
  unfold markupDeclarations Views.registrations
  dsimp only
  rw [javaScriptSpans_markupViews h, find_markupCall h,
    declaredAfter_of_literal h (literal?_markupCall h), formAfter_of_literal
      (literal?_markupCall h), location_markupCall, attributeIdentities_template h,
    attributeIdentities_help h, List.findSome?_cons, hmarker]
  rfl

end Markup

end TwinNode
