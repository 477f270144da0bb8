import TwinNode.Declaration.Extraction

namespace TwinNode

@[simp] theorem FactSet.append_identities (a b : FactSet) :
    (a ++ b).identities = a.identities ++ b.identities :=
  rfl

@[simp] theorem FactSet.append_facts (a b : FactSet) : (a ++ b).facts = a.facts ++ b.facts := rfl

/-- The phrase by which a role declares a type name. Keys of the descriptor are not searched for. -/
def IdentityRole.phrase? : IdentityRole → Option Phrase
  | registrationCall => some .registerCall
  | staticField => some .staticType
  | templateName => some .templateName
  | helpName => some .helpName
  | descriptorKey => none

namespace Views

/-- The text that an occurrence of the phrase of a role declares. -/
def declaredText? (v : Views) (role : IdentityRole) (o : Span) : Option (List Char) :=
  match role with
  | .templateName | .helpName => some (Text.trim (Phrase.attributeValue (o.slice v.skeleton)))
  | .registrationCall | .staticField => v.literalAfter? o.stop
  | .descriptorKey => none

/-- A type name that the views of a file declare at an occurrence. -/
structure DeclaredAt (v : Views) (i : Identity) (o : Span) : Prop where
  found : ∃ p, i.role.phrase? = some p ∧ o ∈ v.find p
  value : ∃ text, v.declaredText? i.role o = some text ∧ i.value = String.ofList text
  location : i.location = v.location o.start

theorem mem_declaredAfter {v : Views} {path : String} {role : IdentityRole}
    {occurrences : List Span} {i : Identity} : i ∈ v.declaredAfter path role occurrences ↔
      ∃ o ∈ occurrences, ∃ text, v.literalAfter? o.stop = some text ∧
        i = ⟨path, role, String.ofList text, v.location o.start⟩ := by
  unfold declaredAfter
  rw [List.mem_filterMap]
  refine exists_congr fun o => and_congr_right fun _ => ?_
  rw [Option.map_eq_some_iff]
  exact exists_congr fun text => and_congr_right fun _ => eq_comm

theorem mem_attributeIdentities {v : Views} {path : String} {role : IdentityRole} {p : Phrase}
    {scripts : List Span} {i : Identity} : i ∈ v.attributeIdentities path role p scripts ↔
      ∃ o ∈ v.find p, scripts.any (·.contains o.start) = false ∧
        i = ⟨path, role, String.ofList (Text.trim (Phrase.attributeValue (o.slice v.skeleton))),
          v.location o.start⟩ := by
  unfold attributeIdentities
  rw [List.mem_map]
  refine exists_congr fun o => ?_
  rw [List.mem_filter, Bool.not_eq_true', and_assoc]
  exact and_congr_right fun _ => and_congr_right fun _ => eq_comm

theorem declaredAt_of_mem_declaredAfter {v : Views} {path : String}
    {role : IdentityRole} {p : Phrase} {occurrences : List Span} {i : Identity}
    (hp : role.phrase? = some p) (hr : ∀ o, v.declaredText? role o = v.literalAfter? o.stop)
    (hsub : ∀ o ∈ occurrences, o ∈ v.find p) (h : i ∈ v.declaredAfter path role occurrences) :
    i.role = role ∧ ∃ o ∈ occurrences, v.DeclaredAt i o := by
  obtain ⟨o, ho, text, ht, rfl⟩ := mem_declaredAfter.1 h
  exact ⟨rfl, o, ho, ⟨p, hp, hsub o ho⟩, ⟨text, (hr o).trans ht, rfl⟩, rfl⟩

end Views

theorem stubDeclarations_identities (settings : RuleSettings) (path : String) (v : Views) :
    (stubDeclarations settings path v).identities =
      v.declaredAfter path .registrationCall (v.find .registerCall) := by
  simp [stubDeclarations, Views.registrations, Views.presence]

theorem deviceDeclarations_identities (path : String) (v : Views) :
    (deviceDeclarations path v).identities =
      v.declaredAfter path .staticField (v.find .staticType) ++
        v.declaredAfter path .registrationCall (v.find .registerCall) := by
  simp [deviceDeclarations, Views.registrations, Views.presence]

theorem markupDeclarations_identities (settings : RuleSettings) (path : String) (v : Views) :
    (markupDeclarations settings path v).identities =
      v.declaredAfter path .registrationCall
          ((v.find .registerCall).filter fun o => v.javaScriptSpans.any (·.contains o.start)) ++
        (v.attributeIdentities path .templateName .templateName v.javaScriptSpans ++
          v.attributeIdentities path .helpName .helpName v.javaScriptSpans) := by
  simp [markupDeclarations, Views.registrations, Views.presence]

theorem declaredAt_of_call {path : String} {v : Views} {i : Identity}
    (h : i ∈ v.declaredAfter path .registrationCall (v.find .registerCall)) :
    i.role = .registrationCall ∧ ∃ o, v.DeclaredAt i o := by
  obtain ⟨hrole, o, _, ho⟩ :=
    Views.declaredAt_of_mem_declaredAfter (p := .registerCall) rfl (fun _ => rfl) (fun _ => id) h
  exact ⟨hrole, o, ho⟩

/-- Every type name of a stub is declared at an occurrence of the phrase of its role. -/
theorem declaredAt_of_stub {settings : RuleSettings} {path : String} {v : Views} {i : Identity}
    (h : i ∈ (stubDeclarations settings path v).identities) :
    i.role = .registrationCall ∧ ∃ o, v.DeclaredAt i o := by
  rw [stubDeclarations_identities] at h
  exact declaredAt_of_call h

theorem declaredAt_of_device {path : String} {v : Views} {i : Identity}
    (h : i ∈ (deviceDeclarations path v).identities) :
    (i.role = .registrationCall ∨ i.role = .staticField) ∧ ∃ o, v.DeclaredAt i o := by
  rw [deviceDeclarations_identities] at h
  rcases List.mem_append.1 h with h | h
  · obtain ⟨hrole, o, _, ho⟩ :=
      Views.declaredAt_of_mem_declaredAfter (p := .staticType) rfl (fun _ => rfl) (fun _ => id) h
    exact ⟨.inr hrole, o, ho⟩
  · obtain ⟨hrole, ho⟩ := declaredAt_of_call h
    exact ⟨.inl hrole, ho⟩

theorem declaredAt_of_markup {settings : RuleSettings} {path : String} {v : Views} {i : Identity}
    (h : i ∈ (markupDeclarations settings path v).identities) : ∃ o, v.DeclaredAt i o := by
  rw [markupDeclarations_identities] at h
  rcases List.mem_append.1 h with h | h
  · obtain ⟨_, o, _, ho⟩ :=
      Views.declaredAt_of_mem_declaredAfter (p := .registerCall) rfl (fun _ => rfl)
      (fun _ ho => (List.mem_filter.1 ho).1) h
    exact ⟨o, ho⟩
  · rcases List.mem_append.1 h with h | h
    · obtain ⟨o, ho, _, rfl⟩ := Views.mem_attributeIdentities.1 h
      exact ⟨o, ⟨.templateName, rfl, ho⟩, ⟨_, rfl, rfl⟩, rfl⟩
    · obtain ⟨o, ho, _, rfl⟩ := Views.mem_attributeIdentities.1 h
      exact ⟨o, ⟨.helpName, rfl, ho⟩, ⟨_, rfl, rfl⟩, rfl⟩

end TwinNode
