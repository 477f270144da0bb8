import TwinNode.Proofs.CommandLine.Complaint
import TwinNode.Proofs.Json.ReadBack
import TwinNode.Proofs.Settings.Accepted
import TwinNode.Proofs.Text.Encoding

/-! Any bytes may stand in a settings file. If they are those of a text, and the text as
JSON is not too much to be read, then settings are loaded that have passed their tests, or
there is something to say about the file. Otherwise the command breaks off. It also breaks
off if what is to be said has tags by which it cannot be shown. -/

namespace TwinNode

open CommandLine (Outcome Request complaintMarkup requestSettings withoutSettings)

/-- The settings are to come from the file at a location: the user names it, or it is the nearest
one. -/
inductive FileSystem.SettingsAt (fs : FileSystem) (named start : Option Path.Location) :
    Path.Location → Prop where
  | named {l : Path.Location} (hnamed : named = some l) (hthere : fs.holds l = .ok true) :
    fs.SettingsAt named start l
  | nearest {p : Place} (hnamed : named = none)
    (hfound : findSettingsFile? fs start = .ok (some p)) :
    fs.SettingsAt named start ⟨.top, p⟩

/-- Loading settings ends as the user expects: they have passed their tests, or there is something
to say. -/
def LoadedOrReported (outcome : Except SettingsError Settings) : Prop :=
  (∃ settings, outcome = .ok settings ∧ settings.Accepted) ∨
    ∃ e, outcome = .error e ∧ e.complaint?.isSome = true

theorem not_loadedOrReported {e : SettingsError} (h : e.complaint? = none) :
    ¬LoadedOrReported (.error e) := by
  rintro (⟨_, hok, _⟩ | ⟨_, herror, hcomplaint⟩)
  · cases hok
  · obtain rfl := Except.error.inj herror
    rw [h] at hcomplaint
    cases hcomplaint

section Bytes

variable {reader : SettingsReader} {room : Nat} {path : String} {text : List Char}

/-- What the text of a settings file comes to. -/
theorem loadedOrReported_ofBytes (hreader : reader.Lawful)
    (h : ∀ e, Json.read room (Text.normalizeLineBreaks text) ≠ .error (.excess e)) :
    LoadedOrReported (Settings.ofBytes reader room path (Text.encode text)) := by
  have htext : Text.readTextStrict? (Text.encode text) = some (Text.normalizeLineBreaks text) := by
    unfold Text.readTextStrict?
    rw [Text.decodeStrict?_eq_some_iff.2 rfl]
    rfl
  unfold Settings.ofBytes
  rw [htext]
  dsimp only
  split
  · next e hexcess => exact absurd hexcess (h e)
  · exact .inr ⟨_, rfl, rfl⟩
  · split
    · exact .inr ⟨_, rfl, rfl⟩
    · split
      · next htaken => exact .inl ⟨_, rfl, hreader.accepted htaken⟩
      · exact .inr ⟨_, rfl, rfl⟩
      · next hbroken => exact absurd hbroken (hreader.refuses _)

theorem ofBytes_notUtf8 {bytes : Bytes} (h : ∀ text, Text.encode text ≠ bytes) :
    Settings.ofBytes reader room path bytes = .error .notUtf8 := by
  have hnone : Text.decodeStrict? bytes = none :=
    Option.eq_none_iff_forall_ne_some.2 fun text htext =>
      h text (Text.decodeStrict?_eq_some_iff.1 htext)
  unfold Settings.ofBytes Text.readTextStrict?
  rw [hnone]
  rfl

theorem ofBytes_excess {e : Json.Excess}
    (h : Json.read room (Text.normalizeLineBreaks text) = .error (.excess e)) :
    Settings.ofBytes reader room path (Text.encode text) = .error (.excess e) := by
  unfold Settings.ofBytes Text.readTextStrict?
  rw [Text.decodeStrict?_eq_some_iff.2 rfl]
  dsimp only [Option.map]
  rw [h]

variable (room) in
/-- Bytes of a text that is not too much to be read. -/
def ReadableText (bytes : Bytes) : Prop :=
  ∃ text, Text.encode text = bytes ∧
    ∀ e, Json.read room (Text.normalizeLineBreaks text) ≠ .error (.excess e)

/-- Bytes are those of a readable text, or of a text that is too much to be read, or of no text. -/
theorem readableText_cases (room : Nat) (bytes : Bytes) : ReadableText room bytes ∨
    (∃ text e, Text.encode text = bytes ∧
      Json.read room (Text.normalizeLineBreaks text) = .error (.excess e)) ∨
      ∀ text, Text.encode text ≠ bytes := by
  by_cases h : ∃ text, Text.encode text = bytes
  · obtain ⟨text, htext⟩ := h
    by_cases hexcess : ∃ e, Json.read room (Text.normalizeLineBreaks text) = .error (.excess e)
    · obtain ⟨e, he⟩ := hexcess
      exact .inr (.inl ⟨text, e, htext, he⟩)
    · exact .inl ⟨text, htext, not_exists.1 hexcess⟩
  · exact .inr (.inr (not_exists.1 h))

theorem not_readableText {e : Json.Excess}
    (h : Json.read room (Text.normalizeLineBreaks text) = .error (.excess e)) :
    ¬ReadableText room (Text.encode text) := by
  rintro ⟨other, hother, hread⟩
  -- Bytes are those of one text only.
  have hsame := Text.decodeStrict?_eq_some_iff.2 hother
  rw [Text.decodeStrict?_eq_some_iff.2 rfl] at hsame
  obtain rfl := Option.some.inj hsame
  exact hread e h

end Bytes

section Loading

variable {reader : SettingsReader} {fs : FileSystem} {named start : Option Path.Location}
  {l : Path.Location}

theorem loadSettings_of_settingsAt (h : fs.SettingsAt named start l) :
    loadSettings reader fs named start = readSettings reader fs l := by
  cases h with
  | named hnamed hthere =>
    subst hnamed
    unfold loadSettings
    simp only [hthere]
  | nearest hnamed hfound =>
    subst hnamed
    unfold loadSettings
    rw [hfound]
    rfl

theorem readSettings_loadedOrReported_iff (hreader : reader.Lawful)
    (fs : FileSystem) (l : Path.Location) :
    (LoadedOrReported (readSettings reader fs l) ↔ ∀ bytes, fs.read l = .ok bytes →
      ReadableText fs.room bytes) ∧
      (¬LoadedOrReported (readSettings reader fs l) →
        readSettings reader fs l = .error .notUtf8 ∨
          ∃ e, readSettings reader fs l = .error (.excess e)) := by
  unfold readSettings
  cases hread : fs.read l with
  | error e =>
    have hreported : LoadedOrReported (.error (.unreadable l.text e)) := .inr ⟨_, rfl, rfl⟩
    exact ⟨iff_of_true hreported nofun, fun hno => absurd hreported hno⟩
  | ok bytes =>
    have hbytes : (∀ found, (.ok bytes : Except AccessError Bytes) = .ok found →
        ReadableText fs.room found) ↔ ReadableText fs.room bytes :=
      ⟨fun hall => hall bytes rfl, fun h found hfound => Except.ok.inj hfound ▸ h⟩
    dsimp only
    rw [hbytes]
    rcases readableText_cases fs.room bytes with htext | ⟨text, e, rfl, he⟩ | hno
    · have hreported : LoadedOrReported (Settings.ofBytes reader fs.room l.text bytes) := by
        obtain ⟨text, rfl, hshort⟩ := htext
        exact loadedOrReported_ofBytes hreader hshort
      exact ⟨iff_of_true hreported htext, fun hno => absurd hreported hno⟩
    · rw [ofBytes_excess he]
      exact ⟨iff_of_false (not_loadedOrReported rfl) (not_readableText he), fun _ => .inr ⟨e, rfl⟩⟩
    · rw [ofBytes_notUtf8 hno]
      exact ⟨iff_of_false (not_loadedOrReported rfl) fun ⟨text, htext, _⟩ => hno text htext,
        fun _ => .inl rfl⟩

end Loading

/-- A command ends with code 2 for want of settings if and only if there is something to say that
can be shown. -/
theorem withoutSettings_code_iff (e : SettingsError) :
    (∃ outcome, withoutSettings e = .ok outcome ∧ outcome.exitCode = 2) ↔
      ∃ complaint, e.complaint? = some complaint ∧ ∃ lines, shownLines (complaintMarkup complaint) =
        .ok lines := by
  unfold withoutSettings
  cases e.complaint? with
  | none => exact iff_of_false (fun ⟨_, h, _⟩ => nomatch h) fun ⟨_, h, _⟩ => nomatch h
  | some complaint =>
    dsimp only
    constructor
    · rintro ⟨outcome, houtcome, _⟩
      split at houtcome
      · cases houtcome
      · next lines hlines => exact ⟨complaint, rfl, lines, hlines⟩
    · rintro ⟨_, hcomplaint, lines, hlines⟩
      obtain rfl := Option.some.inj hcomplaint
      rw [hlines]
      exact ⟨_, rfl, rfl⟩

/-- How a command ends for which there are no settings. What is to be said can be shown where no tag
stands in it. -/
structure EndsWithout (e : SettingsError) (ending : Except CommandLine.Failure Outcome) : Prop where
  code_iff : (∃ outcome, ending = .ok outcome ∧ outcome.exitCode = 2) ↔
    ∃ complaint, e.complaint? = some complaint ∧
      ∃ lines, shownLines (complaintMarkup complaint) = .ok lines
  unshown : ∀ complaint fault, e.complaint? = some complaint →
    shownLines (complaintMarkup complaint) = .error fault → ending = .error (.markup fault)
  silent : e.complaint? = none → ending = .error (.settings e)
  tagless : ∀ complaint, e.complaint? = some complaint → Console.Tagless complaint.toList →
    ∃ outcome, ending = .ok outcome ∧ outcome.exitCode = 2

theorem endsWithout_withoutSettings (e : SettingsError) : EndsWithout e (withoutSettings e) where
  code_iff := withoutSettings_code_iff e
  unshown complaint fault hcomplaint hfault := by
    unfold withoutSettings
    rw [hcomplaint]
    dsimp only
    rw [hfault]
  silent hcomplaint := by
    unfold withoutSettings
    rw [hcomplaint]
  tagless complaint hcomplaint htagless :=
    (withoutSettings_code_iff e).2 ⟨complaint, hcomplaint, exists_shownLines_complaint htagless⟩

/-- With a lawful reader, settings from a file pass their tests or there is something to say about
them, if the file cannot be opened or holds a text that is not too much to be read; any other file
makes the command break off. What is to be said ends the command with code 2 if it can be shown, and
a fault of its tags ends it otherwise. -/
theorem loadedOrReported_iff {reader : SettingsReader} (hreader : reader.Lawful) {fs : FileSystem}
    {named start : Option Path.Location} {l : Path.Location} (h : fs.SettingsAt named start l) :
    (LoadedOrReported (loadSettings reader fs named start) ↔
        ∀ bytes, fs.read l = .ok bytes → ReadableText fs.room bytes) ∧
      (¬LoadedOrReported (loadSettings reader fs named start) →
        loadSettings reader fs named start = .error .notUtf8 ∨
          ∃ e, loadSettings reader fs named start = .error (.excess e)) ∧
      ∀ roots format strict config showHints e,
        requestSettings reader fs roots config = loadSettings reader fs named start →
          loadSettings reader fs named start = .error e →
            EndsWithout e
              ((Request.validate roots format strict config showHints).run reader fs) := by
  rw [loadSettings_of_settingsAt h]
  obtain ⟨hfile, hfault⟩ := readSettings_loadedOrReported_iff hreader fs l
  refine ⟨hfile, hfault, fun roots format strict config showHints e hsettings he => ?_⟩
  rw [he] at hsettings
  rw [Request.run, hsettings]
  exact endsWithout_withoutSettings e

def settingsAlone (bytes : Bytes) : FileSystem := ⟨[(["c.json"], bytes)], [], [], usualRoom⟩

theorem settingsAt_settingsAlone (bytes : Bytes) :
    (settingsAlone bytes).SettingsAt (some (Path.Location.ofString "c.json"))
    none (Path.Location.ofString "c.json") := .named rfl (by rfl)

theorem loadSettings_settingsAlone (reader : SettingsReader) (bytes : Bytes) :
    loadSettings reader (settingsAlone bytes) (some (Path.Location.ofString "c.json")) none =
      Settings.ofBytes reader usualRoom "c.json" bytes := by
  rw [loadSettings_of_settingsAt (settingsAt_settingsAlone bytes)]
  rfl

/-- What is written into the file is a text that can be read. -/
theorem readableText_written {nesting : Nat} {v : Json.Value} (h : Json.Simple nesting v)
    (hroom : nesting ≤ usualRoom) :
    ReadableText usualRoom (Text.encode v.pretty.toList) := by
  refine ⟨v.pretty.toList, rfl, fun e => ?_⟩
  have hunix : Text.Unix v.pretty.toList := Json.unix_indented h 0
  rw [Text.normalizeLineBreaks_unix hunix, Json.read_pretty h hroom]
  nofun

def plainSettings : Json.Value := .object [("rules", .object [("deviceModule", .str "nodered")])]

theorem simple_plainSettings : Json.Simple 2 plainSettings :=
  .entry (by decide) (.entry (by decide) (.str (by decide)))

theorem ofBytes_string (reader : SettingsReader) (room : Nat) (path : String)
    {s : String} (h : Json.Clean s) :
    Settings.ofBytes reader room path (Text.encode (Json.Value.str s).pretty.toList) =
      .error (.notObject path) := by
  have hsimple : Json.Simple 0 (.str s) := .str h
  have hunix : Text.Unix (Json.Value.str s).pretty.toList := Json.unix_indented hsimple 0
  unfold Settings.ofBytes Text.readTextStrict?
  rw [Text.decodeStrict?_eq_some_iff.2 rfl]
  dsimp only [Option.map]
  rw [Text.normalizeLineBreaks_unix hunix, Json.read_pretty hsimple (Nat.zero_le room)]
  rfl

/-- One file holds settings, and one a string, which ends the command with code 2. -/
theorem loadedOrReported_plainSettings : Settings.ofMembers.Lawful ∧
    LoadedOrReported
      (loadSettings Settings.ofMembers (settingsAlone (Text.encode plainSettings.pretty.toList))
      (some (Path.Location.ofString "c.json")) none) ∧
    ∃ outcome,
      (Request.validate [Path.Location.ofString "pkg"] none false
        (some (Path.Location.ofString "c.json")) true).run
      Settings.ofMembers (settingsAlone (Text.encode (Json.Value.str "plain").pretty.toList)) =
        .ok outcome ∧
        outcome.exitCode = 2 := by
  refine ⟨Settings.lawful_ofMembers, ?loaded, ?reported⟩
  case loaded =>
    refine (loadedOrReported_iff Settings.lawful_ofMembers (settingsAt_settingsAlone _)).1.2
      fun bytes hread => ?_
    have hbytes : Text.encode plainSettings.pretty.toList = bytes := Except.ok.inj hread
    exact hbytes ▸ readableText_written simple_plainSettings (by decide)
  case reported =>
    have hload :
      loadSettings Settings.ofMembers
        (settingsAlone (Text.encode (Json.Value.str "plain").pretty.toList))
        (some (Path.Location.ofString "c.json")) none = .error (.notObject "c.json") := by
      rw [loadSettings_settingsAlone]
      exact ofBytes_string Settings.ofMembers usualRoom "c.json" (by decide)
    obtain ⟨_, _, hends⟩ := loadedOrReported_iff Settings.lawful_ofMembers
      (settingsAt_settingsAlone (Text.encode (Json.Value.str "plain").pretty.toList))
    exact (hends _ _ _ _ _ _ (by rfl) hload).tagless _ rfl (by decide)

/-- A file with a byte that no text has is neither read nor complained about. -/
theorem escapes_notUtf8 :
    (settingsAlone [0xFF]).read (Path.Location.ofString "c.json") = .ok [0xFF] ∧
      loadSettings Settings.ofMembers (settingsAlone [0xFF])
        (some (Path.Location.ofString "c.json")) none = .error .notUtf8 ∧
      ¬LoadedOrReported (loadSettings Settings.ofMembers (settingsAlone [0xFF])
        (some (Path.Location.ofString "c.json")) none) ∧
      (Request.validate [Path.Location.ofString "pkg"] none false
        (some (Path.Location.ofString "c.json")) true).run Settings.ofMembers
          (settingsAlone [0xFF]) = .error (.settings .notUtf8) := by
  have hload : loadSettings Settings.ofMembers (settingsAlone [0xFF])
    (some (Path.Location.ofString "c.json")) none =
      .error .notUtf8 := by rfl
  refine ⟨by rfl, hload, ?_, by rfl⟩
  rw [hload]
  exact not_loadedOrReported rfl

end TwinNode
