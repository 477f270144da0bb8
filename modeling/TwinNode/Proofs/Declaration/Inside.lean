import Mathlib.Data.List.Nodup
import TwinNode.Proofs.Declaration.Layout
import TwinNode.Proofs.Script.Inside

/-! Whatever stands in a string or template literal on one line, nothing but the value of
the literal comes from it. When other text without line breaks, escapes and the delimiter is
written over the inside, the skeleton stays, all forms and flags that are noted about the
script stay, and of the type names at most the one that is read from this very literal
changes its value. -/

namespace TwinNode

open TwinNode.Script (Refilled views)

namespace Phrase

theorem stops_nodup {p : Phrase} (hp : p.declaresInScripts) (text : List Char) :
    ((occurrences p.recognise text).map (·.stop)).Nodup := by
  rw [List.Nodup, List.pairwise_map]
  refine (occurrencesFrom_pairwise p.recognise none 0 0 text).imp_of_mem fun _ hlater hle => ?_
  obtain ⟨_, _, _, _, _, hstop⟩ := reads_of_mem hp hlater
  omega

end Phrase

/-- Of things with different keys, only the one with a given key may give something else. -/
theorem filterMap_changed {f g : α → Option β} {key : α → Nat} {things : List α} {k : Nat}
    (hkeys : (things.map key).Nodup) (hsame : ∀ a ∈ things, key a ≠ k → g a = f a) :
    things.filterMap g = things.filterMap f ∨ ∃ before a after, a ∈ things ∧ key a = k ∧
      things.filterMap f = before ++ ((f a).toList ++ after) ∧
        things.filterMap g = before ++ ((g a).toList ++ after) := by
  by_cases hat : ∃ a ∈ things, key a = k
  · obtain ⟨a, ha, rfl⟩ := hat
    obtain ⟨left, right, rfl⟩ := List.append_of_mem ha
    rw [List.map_append, List.map_cons, List.nodup_middle, List.nodup_cons,
      List.mem_append] at hkeys
    have hleft : left.filterMap g = left.filterMap f := List.filterMap_congr fun b hb =>
      hsame b (by simp [hb]) fun he => hkeys.1 (.inl (he ▸ List.mem_map_of_mem hb))
    have hright : right.filterMap g = right.filterMap f := List.filterMap_congr fun b hb =>
      hsame b (by simp [hb]) fun he => hkeys.1 (.inr (he ▸ List.mem_map_of_mem hb))
    refine .inr ⟨left.filterMap f, a, right.filterMap f, ha, rfl, ?_, ?_⟩
    · rw [List.filterMap_append, List.filterMap_cons]
      cases f a <;> rfl
    · rw [List.filterMap_append, List.filterMap_cons, hleft, hright]
      cases g a <;> rfl
  · exact .inl (List.filterMap_congr fun a ha => hsame a ha fun he => hat ⟨a, ha, he⟩)

namespace Views

/-- The same type names, but for the value of at most one: of that which is read at an offset. -/
def RenamedAt (v : Views) (offset : Nat) (value : String) (names renamed : List Identity) : Prop :=
  renamed = names ∨ ∃ before i after o, names = before ++ i :: after ∧
    renamed = before ++ { i with value } :: after ∧
    v.DeclaredAt i o ∧ o.stop = offset

/-- What a role declares at an occurrence of its phrase in a script. -/
def declared (v : Views) (path : String) (place : IdentityRole × Span) : Option Identity :=
  (v.literalAfter? place.2.stop).map fun value =>
    ⟨path, place.1, String.ofList value, v.location place.2.start⟩

theorem declaredAfter_filterMap (v : Views) (path : String) (role : IdentityRole)
    (occurrences : List Span) :
    v.declaredAfter path role occurrences = (occurrences.map (role, ·)).filterMap
      (v.declared path) := by
  rw [List.filterMap_map]
  rfl

/-- The phrases of scripts declare by the literals after them. -/
theorem declaredText?_eq (v : Views) {role : IdentityRole} {p : Phrase}
    (hrole : role.phrase? = some p) (hp : p.declaresInScripts) (o : Span) :
    v.declaredText? role o = v.literalAfter? o.stop := by
  cases role with
  | registrationCall | staticField => rfl
  | templateName | helpName | descriptorKey => rcases hp with rfl | rfl <;> cases hrole

/-- Phrases of scripts with their roles, no two of which have the same literal after them. -/
structure Places (v : Views) (places : List (IdentityRole × Span)) : Prop where
  found : ∀ place ∈ places, ∃ p : Phrase, p.declaresInScripts ∧
    place.1.phrase? = some p ∧ place.2 ∈ v.find p
  stops_nodup : (places.map (·.2.stop)).Nodup

theorem places_calls (v : Views) :
    v.Places ((v.find .registerCall).map (.registrationCall, ·)) where
  found place hplace := by
    obtain ⟨o, ho, rfl⟩ := List.mem_map.1 hplace
    exact ⟨.registerCall, .inl rfl, rfl, ho⟩
  stops_nodup := by
    rw [List.map_map]
    exact Phrase.stops_nodup (.inl rfl) v.skeleton

theorem places_device (v : Views) : v.Places
    ((v.find .staticType).map (.staticField, ·) ++ (v.find .registerCall).map
      (.registrationCall, ·)) where
  found place hplace := by
    rcases List.mem_append.1 hplace with hplace | hplace
    · obtain ⟨o, ho, rfl⟩ := List.mem_map.1 hplace
      exact ⟨.staticType, .inr rfl, rfl, ho⟩
    · exact v.places_calls.found place hplace
  stops_nodup := by
    rw [List.map_append, List.nodup_append]
    refine ⟨?_, v.places_calls.stops_nodup, ?_⟩
    · rw [List.map_map]
      exact Phrase.stops_nodup (.inr rfl) v.skeleton
    · simp only [List.map_map, List.mem_map, Function.comp_apply]
      rintro _ ⟨field, hfield, rfl⟩ _ ⟨call, hcall, rfl⟩
      exact (Phrase.stop_ne_stop hcall hfield).symm

end Views

namespace Script.Refilled

variable {text : List Char} {offset : Nat} {quote : Char} {inside other : List Char}
  (h : Refilled text offset quote inside other)
include h

theorem sameLayout : (views (overwrite text (offset + 1) other)).SameLayout (views text) :=
  (Views.aligned_script _).sameLayout (Views.aligned_script _) h.skeleton_eq

theorem isSome_literal?_eq {p : Phrase} (hp : p.declaresInScripts) {o : Span}
    (ho : o ∈ (views text).find p) :
    ((views (overwrite text (offset + 1) other)).literal? o.stop).isSome =
      ((views text).literal? o.stop).isSome := by
  by_cases hstop : o.stop = offset
  · rw [hstop, h.literal?_after, h.literal?_before]
    rfl
  · rw [h.literal?_eq hp ho hstop]

theorem renamedAt {path : String} {places : List (IdentityRole × Span)}
    (hplaces : (views text).Places places) :
    (views text).RenamedAt offset (String.ofList (Text.trim other))
    (places.filterMap ((views text).declared path))
      (places.filterMap ((views (overwrite text (offset + 1) other)).declared path)) := by
  have hsame : ∀ place ∈ places, place.2.stop ≠ offset →
      (views (overwrite text (offset + 1) other)).declared path place =
        (views text).declared path place := by
    intro place hplace hstop
    obtain ⟨p, hp, _, ho⟩ := hplaces.found place hplace
    unfold Views.declared Views.literalAfter?
    rw [h.literal?_eq hp ho hstop, h.sameLayout.location]
  rcases filterMap_changed hplaces.stops_nodup hsame
    with heq | ⟨before, ⟨role, o⟩, after, hplace, rfl, hnames, hrenamed⟩
  · exact .inl heq
  · obtain ⟨p, hp, hrole, ho⟩ := hplaces.found _ hplace
    have hbefore : (views text).declared path (role, o) =
        some ⟨path, role, String.ofList (Text.trim inside), (views text).location o.start⟩ := by
      simp [Views.declared, Views.literalAfter?, h.literal?_before]
    have hafter : (views (overwrite text (o.stop + 1) other)).declared path (role, o) =
        some ⟨path, role, String.ofList (Text.trim other), (views text).location o.start⟩ := by
      simp [Views.declared, Views.literalAfter?, h.literal?_after, h.sameLayout.location]
    rw [hbefore] at hnames
    rw [hafter] at hrenamed
    refine .inr ⟨before, _, after, o, hnames, hrenamed,
      ⟨⟨p, hrole, ho⟩, ⟨Text.trim inside, ?_, rfl⟩, rfl⟩, rfl⟩
    rw [(views text).declaredText?_eq hrole hp]
    simp [Views.literalAfter?, h.literal?_before]

end Script.Refilled

/-- The inside of a string or template literal is no code. Where a closed one on one line has other
text of the same length written over its inside, without line breaks, escapes and its delimiter, the
skeleton is the same and the code is so outside of the delimiters. So everything that is noted about
a host stub or a device script stays, but for the module that a stub names by a literal; and its
type names stay with their places, but for the value of the one that is read from this literal. -/
theorem inside_never_counts {text : List Char} {offset : Nat} {quote : Char}
    {inside other : List Char} (h : Refilled text offset quote inside other) :
    let changed := overwrite text (offset + 1) other
    Script.skeleton changed = Script.skeleton text ∧
      Script.code changed = overwrite (Script.code text) (offset + 1) other ∧
      ∀ settings path,
        let stub := stubDeclarations settings path (views text)
        let stub' := stubDeclarations settings path (views changed)
        let device := deviceDeclarations path (views text)
        let device' := deviceDeclarations path (views changed)
        stub'.facts.filter (·.name != .referencesDeviceModule) =
          stub.facts.filter (·.name != .referencesDeviceModule) ∧
          device'.facts = device.facts ∧
          (views text).RenamedAt offset (String.ofList (Text.trim other))
            stub.identities stub'.identities ∧
          (views text).RenamedAt offset (String.ofList (Text.trim other))
            device.identities device'.identities := by
  have hcalls := fun o ho => h.isSome_literal?_eq (p := .registerCall) (.inl rfl) (o := o) ho
  have hfields := fun o ho => h.isSome_literal?_eq (p := .staticType) (.inr rfl) (o := o) ho
  have hlayout := h.sameLayout
  refine ⟨h.skeleton_eq, h.code_eq, fun settings path => ⟨?_, ?_, ?_, ?_⟩⟩
  · exact hlayout.stub_facts_eq (by rwa [hlayout.find_eq])
  · exact hlayout.device_facts_eq (by rwa [hlayout.find_eq]) (by rwa [hlayout.find_eq])
  · rw [stubDeclarations_identities, stubDeclarations_identities, hlayout.find_eq,
      Views.declaredAfter_filterMap, Views.declaredAfter_filterMap]
    exact h.renamedAt (views text).places_calls
  · rw [deviceDeclarations_identities, deviceDeclarations_identities,
      hlayout.find_eq, hlayout.find_eq]
    simp only [Views.declaredAfter_filterMap, ← List.filterMap_append]
    exact h.renamedAt (views text).places_device

/-- A type name is written over by what could begin a string and a comment. -/
theorem inside_never_counts_opener :
    let text := "registerType('abc')".toList
    let other := "\x22/*".toList
    let changed := overwrite text 14 other
    Refilled text 13 '\x27' "abc".toList other ∧ Script.skeleton changed = Script.skeleton text ∧
      (deviceDeclarations "n.js" (views changed)).facts =
        (deviceDeclarations "n.js" (views text)).facts ∧
      (views text).RenamedAt 13 "\x22/*" (deviceDeclarations "n.js" (views text)).identities
        (deviceDeclarations "n.js" (views changed)).identities := by
  have h : Refilled "registerType('abc')".toList 13 '\x27' "abc".toList "\x22/*".toList := by
    refine ⟨⟨"registerType(".toList.map .plain, ")".toList.map .plain, ?_, ?_⟩, ?_, ?_, ?_, ?_⟩
    all_goals decide +kernel
  obtain ⟨hskeleton, _, hrest⟩ := inside_never_counts h
  obtain ⟨_, hfacts, _, hnames⟩ := hrest {} "n.js"
  have hvalue : String.ofList (Text.trim "\x22/*".toList) = "\x22/*" := by decide +kernel
  rw [hvalue] at hnames
  exact ⟨h, hskeleton, hfacts, hnames⟩

end TwinNode
