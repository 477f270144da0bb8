import Mathlib.Data.List.DropRight
import Mathlib.Tactic.Common
import TwinNode.Settings.Decode

/-! Settings that a reader takes have passed their tests: suffixes begin with a point, the
device module has a name without outer blanks, and there is a worker. The defaults pass them
too. The reader of a program is one on which that can be relied: a setting is its default,
or its test was applied to what stands in the file. -/

namespace TwinNode

open TwinNode.Json (Value)

structure RuleSettings.Accepted (settings : RuleSettings) : Prop where
  suffixes : ∀ s ∈ settings.scriptSuffixes, s.toList.head? = some '.'
  deviceModule : settings.deviceModule.toList ≠ []
  trimmed : Text.trim settings.deviceModule.toList = settings.deviceModule.toList

structure Settings.Accepted (settings : Settings) : Prop where
  rules : settings.rules.Accepted
  workers : 1 ≤ settings.maxWorkers

theorem RuleSettings.accepted_default : ({} : RuleSettings).Accepted :=
  ⟨by decide, by decide, by decide⟩

theorem Settings.accepted_default : ({} : Settings).Accepted :=
  ⟨RuleSettings.accepted_default, by decide⟩

theorem trim_trim (cs : List Char) : Text.trim (Text.trim cs) = Text.trim cs := by
  unfold Text.trim Text.trimRight Text.trimLeft
  have hleft : ((cs.dropWhile Text.isBlank).reverse.dropWhile Text.isBlank).reverse.dropWhile
    Text.isBlank =
      ((cs.dropWhile Text.isBlank).reverse.dropWhile Text.isBlank).reverse := by
    -- What is left after the last blanks are gone begins like the text before.
    obtain ⟨blanks, hblanks⟩ :=
      List.dropWhile_suffix Text.isBlank (l := (cs.dropWhile Text.isBlank).reverse)
    have hfront : cs.dropWhile Text.isBlank =
        ((cs.dropWhile Text.isBlank).reverse.dropWhile Text.isBlank).reverse ++ blanks.reverse := by
      rw [← List.reverse_append, hblanks, List.reverse_reverse]
    generalize ((cs.dropWhile Text.isBlank).reverse.dropWhile Text.isBlank).reverse =
      kept at hfront ⊢
    cases kept with
    | nil => rfl
    | cons c kept =>
      have hc : Text.isBlank c = false := by
        have hhead := List.head?_dropWhile_not Text.isBlank cs
        rw [hfront] at hhead
        simpa using hhead
      rw [List.dropWhile_cons, hc]
      rfl
  rw [hleft, List.reverse_reverse, List.dropWhile_idempotent]

theorem head_of_checkSuffixes {suffixes kept : List String}
    (h : checkSuffixes suffixes = .ok kept) :
    ∀ s ∈ kept, s.toList.head? = some '.' := by
  unfold checkSuffixes at h
  split at h
  · cases h
  · next hnone =>
    obtain rfl := Except.ok.inj h
    exact fun s hs => by simpa using List.find?_eq_none.1 hnone s hs

theorem trimmed_of_checkModule {name kept : String} (h : checkModule name = .ok kept) :
    kept.toList ≠ [] ∧ Text.trim kept.toList = kept.toList := by
  unfold checkModule at h
  dsimp only at h
  split at h
  · cases h
  · next hne =>
    obtain rfl := Except.ok.inj h
    rw [String.toList_ofList]
    exact ⟨fun hnil => hne (by rw [hnil]; rfl), trim_trim name.toList⟩

theorem one_le_of_checkWorkers {n kept : Int} (h : checkWorkers n = .ok kept) : 1 ≤ kept := by
  unfold checkWorkers at h
  split at h
  · cases h
  · obtain rfl := Except.ok.inj h
    omega

/-- Settings that are taken pass their tests. -/
theorem SettingsReader.Lawful.accepted {reader : SettingsReader} (hreader : reader.Lawful)
    {members : List (String × Value)} {settings : Settings} (h : reader members = .ok settings) :
    settings.Accepted := by
  have hsuffixes : ∀ s ∈ settings.rules.scriptSuffixes, s.toList.head? = some '.' := by
    rcases hreader.suffixes members settings h with hdefault | ⟨given, htest⟩
    · exact hdefault ▸ RuleSettings.accepted_default.suffixes
    · exact head_of_checkSuffixes htest
  have hmodule : settings.rules.deviceModule.toList ≠ [] ∧
      Text.trim settings.rules.deviceModule.toList = settings.rules.deviceModule.toList := by
    rcases hreader.deviceModule members settings h with hdefault | ⟨given, htest⟩
    · exact hdefault ▸ ⟨RuleSettings.accepted_default.deviceModule,
        RuleSettings.accepted_default.trimmed⟩
    · exact trimmed_of_checkModule htest
  have hworkers : 1 ≤ settings.maxWorkers := by
    rcases hreader.workers members settings h with hdefault | ⟨given, htest⟩
    · exact hdefault ▸ Settings.accepted_default.workers
    · exact one_le_of_checkWorkers htest
  exact ⟨⟨hsuffixes, hmodule.1, hmodule.2⟩, hworkers⟩

namespace Decoded

theorem seq_eq_ok {f : Decoded (α → β)} {x : Decoded α} {b : β} (h : f <*> x = .ok b) :
    ∃ g a, f = .ok g ∧ x = .ok a ∧ g a = b := by
  cases f <;> cases x <;> cases h
  exact ⟨_, _, rfl, rfl, rfl⟩

theorem map_eq_ok {f : α → β} {x : Decoded α} {b : β} (h : f <$> x = .ok b) :
    ∃ a, x = .ok a ∧ f a = b := by
  obtain ⟨g, a, hg, ha, hb⟩ := seq_eq_ok (f := .ok f) h
  cases hg
  exact ⟨a, ha, hb⟩

theorem ofTest_eq_ok {keys : List String} {v : Value} {test : Except SettingProblem α} {a : α}
    (h : ofTest keys v test = .ok a) : test = .ok a := by
  cases test <;> cases h
  rfl

end Decoded

namespace Decoder

/-- All values that a reader takes have a property. -/
def Gives (d : Decoder α) (P : α → Prop) : Prop := ∀ keys v a, d keys v = .ok a → P a

variable {P : α → Prop} {d : Decoder α}

theorem Gives.setting (h : d.Gives P) {default : α} (hdefault : P default) (names : List String) :
    (setting names default d).Gives P := by
  intro keys v a ha
  unfold Decoder.setting at ha
  split at ha
  · exact h _ _ a ha
  · cases ha
    exact hdefault

theorem Gives.section (h : d.Gives P) {default : α} (hdefault : P default) (name : String) :
    (section? name default d).Gives P := by
  refine Gives.setting (fun keys v a ha => ?_) hdefault [name]
  split at ha
  · exact h keys v a ha
  · cases ha

theorem gives_checked (d : Decoder α) (test : α → Except SettingProblem α) (default : α) :
    (checked d test).Gives (Tested test default) := by
  intro keys v b hb
  unfold checked at hb
  split at hb
  · next a _ => exact .inr ⟨a, Decoded.ofTest_eq_ok hb⟩
  · cases hb

end Decoder

open Decoder

/-- The settings of the rules that have a test of their own. -/
structure RuleSettings.AllTested (settings : RuleSettings) : Prop where
  suffixes : Tested checkSuffixes ({} : RuleSettings).scriptSuffixes settings.scriptSuffixes
  deviceModule : Tested checkModule ({} : RuleSettings).deviceModule settings.deviceModule

theorem gives_ruleSettings : RuleSettings.decode.Gives RuleSettings.AllTested := by
  intro keys v settings h
  unfold RuleSettings.decode at h
  obtain ⟨_, locale, h₅, _, rfl⟩ := Decoded.seq_eq_ok h
  obtain ⟨_, marker, h₄, _, rfl⟩ := Decoded.seq_eq_ok h₅
  obtain ⟨_, module, h₃, hmodule, rfl⟩ := Decoded.seq_eq_ok h₄
  obtain ⟨_, suffixes, h₂, hsuffixes, rfl⟩ := Decoded.seq_eq_ok h₃
  obtain ⟨_, strict, h₁, _, rfl⟩ := Decoded.seq_eq_ok h₂
  obtain ⟨disabled, _, rfl⟩ := Decoded.map_eq_ok h₁
  exact ⟨(gives_checked strings checkSuffixes _).setting (.inl rfl) _ keys v suffixes hsuffixes,
    (gives_checked string checkModule _).setting (.inl rfl) _ keys v module hmodule⟩

theorem gives_decodeSections : Settings.decodeSections.Gives fun settings =>
    settings.rules.AllTested ∧
      Tested checkWorkers ({} : Settings).maxWorkers settings.maxWorkers := by
  intro keys v settings h
  unfold Settings.decodeSections at h
  obtain ⟨_, level, h₄, _, rfl⟩ := Decoded.seq_eq_ok h
  obtain ⟨_, workers, h₃, hworkers, rfl⟩ := Decoded.seq_eq_ok h₄
  obtain ⟨_, format, h₂, _, rfl⟩ := Decoded.seq_eq_ok h₃
  obtain ⟨_, rules, h₁, hrules, rfl⟩ := Decoded.seq_eq_ok h₂
  obtain ⟨exclude, _, rfl⟩ := Decoded.map_eq_ok h₁
  have hrule := gives_ruleSettings.section ⟨.inl rfl, .inl rfl⟩ _ keys v rules hrules
  have hworker :=
    ((gives_checked integer checkWorkers _).setting (.inl rfl) _).section (.inl rfl)
      _ keys v workers hworkers
  exact ⟨hrule, hworker⟩

theorem Settings.tested_of_ofMembers {members : List (String × Value)} {settings : Settings}
    (h : Settings.ofMembers members = .ok settings) :
    settings.rules.AllTested ∧
      Tested checkWorkers ({} : Settings).maxWorkers settings.maxWorkers := by
  unfold Settings.ofMembers Settings.decode at h
  split at h
  · next hdecode =>
    obtain rfl := Except.ok.inj h
    split at hdecode
    · cases hdecode
    · obtain ⟨_, _, hf, _, rfl⟩ := Decoded.seq_eq_ok hdecode
      obtain ⟨settings, hs, rfl⟩ := Decoded.map_eq_ok hf
      exact gives_decodeSections [] (.object members) settings hs
  · cases h

theorem Settings.lawful_ofMembers : Settings.ofMembers.Lawful where
  refuses members h := by
    unfold Settings.ofMembers at h
    split at h <;> cases h
  suffixes _ _ h := (tested_of_ofMembers h).1.suffixes
  deviceModule _ _ h := (tested_of_ofMembers h).1.deviceModule
  workers _ _ h := (tested_of_ofMembers h).2

end TwinNode
