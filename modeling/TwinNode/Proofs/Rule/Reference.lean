import TwinNode.Proofs.Rule.Descriptor
import TwinNode.Proofs.Rule.Mismatch

/-! Each file of a unit that disagrees with itself gets one finding, and the unit gets one
if the files disagree with each other. Then one name is held against all others: that of the
host stub if it agrees with itself, else the name that is declared most often, and of
several such names the one in the file with the least path. The reference is itself one of
the names, so that where the names are not all the same, some of them differ from it. -/

namespace TwinNode

namespace Rule

/-! ## The preferred name -/

section Preferred

variable (identities : List Identity)

theorem preferred_iff {a b : Identity} : preferred identities a b = true ↔
    frequency identities b.value < frequency identities a.value ∨
      frequency identities a.value = frequency identities b.value ∧ a.path ≤ b.path := by
  unfold preferred
  simp

theorem preferred_trans (a b c : Identity) (hab : preferred identities a b = true)
    (hbc : preferred identities b c = true) :
    preferred identities a c = true := by
  rw [preferred_iff] at hab hbc ⊢
  rcases hab with hab | ⟨hab, hpath⟩
  · left
    omega
  · rcases hbc with hbc | ⟨hbc, hpath'⟩
    · left
      omega
    · exact .inr ⟨hab.trans hbc, String.le_trans hpath hpath'⟩

theorem preferred_total (a b : Identity) :
    (preferred identities a b || preferred identities b a) = true := by
  rw [Bool.or_eq_true, preferred_iff, preferred_iff]
  rcases Nat.lt_trichotomy (frequency identities a.value) (frequency identities b.value)
    with h | h | h
  · exact .inr (.inl h)
  · rcases String.le_total a.path b.path with hpath | hpath
    · exact .inl (.inr ⟨h, hpath⟩)
    · exact .inr (.inr ⟨h.symm, hpath⟩)
  · exact .inl (.inl h)

end Preferred

/-- A declaration of a most frequent value, and of those that are equally frequent one with the
least path. -/
structure Prevails (identities : List Identity) (r : Identity) : Prop where
  mem : r ∈ identities
  frequent : ∀ i ∈ identities, frequency identities i.value ≤ frequency identities r.value
  least : ∀ i ∈ identities, frequency identities i.value = frequency identities r.value →
    r.path ≤ i.path

theorem prevails_of_head? {identities : List Identity} {r : Identity}
    (h : (identities.mergeSort (preferred identities)).head? = some r) : Prevails identities r := by
  obtain ⟨hmem, hfirst⟩ :=
    head?_mergeSort_le (preferred_trans identities) (preferred_total identities) h
  simp only [preferred_iff] at hfirst
  refine ⟨hmem, fun i hi => ?_, fun i hi heq => ?_⟩
  · rcases hfirst i hi with hless | ⟨heq, _⟩
    · exact Nat.le_of_lt hless
    · exact heq.ge
  · rcases hfirst i hi with hless | ⟨_, hpath⟩
    · omega
    · exact hpath

/-! ## The findings by what they say -/

end Rule

/-- Whether the message of a finding begins with the given words. -/
def Finding.beginsWith (words : String) (f : Finding) : Bool :=
  words.toList.isPrefixOf f.message.toList

/-- A message that begins with some words does not begin with others, if neither of them begin with
the other ones. -/
theorem Finding.beginsWith_eq_false {words others rest : String} {f : Finding}
    (h : f.message = others ++ rest) (hwords : ¬words.toList <+: others.toList)
    (hothers : ¬others.toList <+: words.toList) : f.beginsWith words = false := by
  rw [beginsWith, Bool.eq_false_iff, Ne, List.isPrefixOf_iff_prefix, h, String.toList_append]
  intro hprefix
  exact (List.prefix_or_prefix_of_prefix hprefix (List.prefix_append _ _)).elim hwords hothers

theorem Finding.beginsWith_of_message {words rest : String} {f : Finding}
    (h : f.message = words ++ rest) : f.beginsWith words = true := by
  rw [beginsWith, List.isPrefixOf_iff_prefix, h, String.toList_append]
  exact List.prefix_append _ _

namespace Rule

/-- The words that the finding about a file begins with whose names disagree. -/
def disagreementWords : String := "Type names disagree within the file: "

/-- The words that the finding about a unit begins with whose files disagree. -/
def mismatchWords : String := "Type name mismatch for node "

theorem filter_toList {q : α → Bool} {o : Option α} (h : ∀ a ∈ o, q a = true) :
    o.toList.filter q = o.toList :=
  List.filter_eq_self.2 fun a ha => h a (Option.mem_toList.1 ha)

theorem filter_toList_eq_nil {q : α → Bool} {o : Option α} (h : ∀ a ∈ o, q a = false) :
    o.toList.filter q = [] :=
  List.filter_eq_nil_iff.2 fun a ha => by simp [h a (Option.mem_toList.1 ha)]

section Words

variable {facts : FactSet} {context : CheckContext} {a : Artifact} {u : NodeUnit}

theorem beginsWith_missingIdentity : ∀ f ∈ missingIdentity? facts a,
    f.beginsWith disagreementWords = false ∧ f.beginsWith mismatchWords = false := by
  intro f hf
  obtain ⟨required, _, hf⟩ := Option.bind_eq_some_iff.1 hf
  dsimp only at hf
  split at hf
  · cases hf
  · obtain rfl := Option.some.inj hf
    have hmessage : ∃ rest, "Type name in " ++ required.2 ++ " is not a string literal" =
        "Type name in " ++ rest :=
      ⟨_, String.append_assoc⟩
    obtain ⟨rest, hrest⟩ := hmessage
    exact ⟨Finding.beginsWith_eq_false hrest (by decide) (by decide),
      Finding.beginsWith_eq_false hrest (by decide) (by decide)⟩
  · obtain rfl := Option.some.inj hf
    have hmessage : ∃ rest, "No type name declared: " ++ required.2 ++ " not found" =
        "No type name declared: " ++ rest :=
      ⟨_, String.append_assoc⟩
    obtain ⟨rest, hrest⟩ := hmessage
    exact ⟨Finding.beginsWith_eq_false hrest (by decide) (by decide),
      Finding.beginsWith_eq_false hrest (by decide) (by decide)⟩

theorem beginsWith_disagreement : ∀ f ∈ disagreement? facts a,
    f.path = a.path ∧ f.beginsWith disagreementWords = true ∧
      f.beginsWith mismatchWords = false := by
  intro f hf
  obtain ⟨other, _, rfl⟩ := Option.map_eq_some_iff.1 hf
  exact ⟨rfl, Finding.beginsWith_of_message rfl, Finding.beginsWith_eq_false
    rfl (by decide) (by decide)⟩

theorem beginsWith_mismatch : ∀ f ∈ mismatch? context u, f.beginsWith disagreementWords = false ∧
    f.beginsWith mismatchWords = true := by
  intro f hf
  obtain ⟨reference, _, hf⟩ := Option.bind_eq_some_iff.1 hf
  obtain ⟨first, _, rfl⟩ := Option.map_eq_some_iff.1 hf
  have hmessage : ∀ b c d e f g : String, ∃ rest, mismatchWords ++ u.key ++ b ++ c ++ d ++ e ++ f ++
      g = mismatchWords ++ rest := by
    intro b c d e f g
    exact ⟨u.key ++ (b ++ (c ++ (d ++ (e ++ (f ++ g))))), by simp only [String.append_assoc]⟩
  obtain ⟨rest, hrest⟩ := hmessage _ _ _ _ _ _
  exact ⟨Finding.beginsWith_eq_false hrest (by decide) (by decide),
    Finding.beginsWith_of_message hrest⟩

/-- The findings about files that disagree with themselves. -/
theorem filter_disagreements (context : CheckContext) (u : NodeUnit) :
    (unitIdentity context u).filter (·.beginsWith disagreementWords) =
      (declaring u).filterMap (disagreement? context.facts) := by
  unfold unitIdentity
  rw [List.filter_append, List.filter_flatMap, filter_toList_eq_nil fun f hf =>
    (beginsWith_mismatch f hf).1, List.append_nil, List.filterMap_eq_flatMap_toList]
  congr 1
  funext a
  rw [List.filter_append, filter_toList_eq_nil fun f hf => (beginsWith_missingIdentity f hf).1,
    List.nil_append, filter_toList fun f hf => (beginsWith_disagreement f hf).2.1]

/-- The finding about files that disagree with each other. -/
theorem filter_mismatches (context : CheckContext) (u : NodeUnit) :
    (unitIdentity context u).filter (·.beginsWith mismatchWords) =
      (mismatch? context u).toList := by
  unfold unitIdentity
  rw [List.filter_append, List.filter_flatMap, filter_toList fun f hf =>
    (beginsWith_mismatch f hf).2]
  have hnone : ∀ a : Artifact,
    ((missingIdentity? context.facts a).toList ++ (disagreement? context.facts a).toList).filter
      (·.beginsWith mismatchWords) = [] := by
    intro a
    rw [List.filter_append, filter_toList_eq_nil fun f hf => (beginsWith_missingIdentity f hf).2,
      filter_toList_eq_nil fun f hf => (beginsWith_disagreement f hf).2.2, List.append_nil]
  simp [hnone]

end Words

end Rule

/-! ## The names that are compared -/

def Artifact.names (settings : RuleSettings) (a : Artifact) : List String :=
  (a.declarations settings).identities.map (·.value)

/-- The first declaration of an artifact; in a device script a static field comes before the
calls. -/
def Artifact.firstName? (settings : RuleSettings) (a : Artifact) : Option Identity :=
  let declared := (a.declarations settings).identities
  if a.kind = .deviceScript then (declared.find? (·.role = .staticField)).or declared.head?
  else declared.head?

def NodeUnit.keyNames (p : Package) (u : NodeUnit) : List Identity :=
  match p.descriptor? with
  | none => []
  | some d =>
    (d.registrations.filter fun entry => u.descriptorKeys.contains entry.1).map fun entry =>
      ⟨d.path, .descriptorKey, String.ofList (Text.trim entry.1.toList),
        registrationLocation entry.1⟩

/-- The declarations by which the files of a unit are compared: the first one of each script and
markup, and the keys. -/
def NodeUnit.compared (settings : RuleSettings) (p : Package) (u : NodeUnit) : List Identity :=
  u.scriptsAndMarkup.filterMap (·.firstName? settings) ++ u.keyNames p

theorem Artifact.path_of_firstName? {settings : RuleSettings} {a : Artifact} {i : Identity}
    (h : a.firstName? settings = some i) : i.path = a.path := by
  have habout : (a.declarations settings).About a.path := a.about_declarations
  apply habout.identities i
  unfold firstName? at h
  dsimp only at h
  split at h
  · rcases Option.or_eq_some_iff.1 h with h | ⟨_, h⟩
    · exact List.mem_of_find?_eq_some h
    · exact List.mem_of_mem_head? h
  · exact List.mem_of_mem_head? h

/-- What has a syntax error declares nothing. -/
theorem Artifact.declarations_of_not_parsed {settings : RuleSettings} {a : Artifact}
    (h : a.isParsed = false) :
    a.declarations settings = .empty := by
  unfold isParsed syntaxError? at h
  cases hcontent : a.content with
  | malformed e =>
    unfold declarations
    rw [hcontent]
    cases a.kind <;> rfl
  | scanned | json | present => simp [hcontent] at h

section Units

variable {settings : RuleSettings} {p : Package} (hpaths : (p.artifacts.map (·.path)).Nodup)
include hpaths

theorem head?_declared {a : Artifact} (ha : a ∈ p.artifacts) :
    (Rule.declared (p.declarations settings) a).head? = a.firstName? settings := by
  unfold Rule.declared Artifact.firstName?
  dsimp only
  rw [identitiesFor_declarations hpaths ha]
  split_ifs
  · rw [List.head?_append, List.head?_filter]
    cases hfind : (a.declarations settings).identities.find? (·.role = .staticField) with
    | some i => rfl
    | none =>
      have hall : (a.declarations settings).identities.filter (·.role ≠ .staticField) =
          (a.declarations settings).identities := by
        apply List.filter_eq_self.2
        intro i hi
        simpa using List.find?_eq_none.1 hfind i hi
      rw [Option.none_or, Option.none_or, hall]
  · rfl

theorem allSame_declared_iff {a : Artifact} (ha : a ∈ p.artifacts) :
    AllSame ((Rule.declared (p.declarations settings) a).map (·.value)) ↔
      AllSame (a.names settings) := by
  apply allSame_congr
  intro name
  simp only [Artifact.names, List.mem_map, Rule.mem_declared, identitiesFor_declarations hpaths ha]

theorem disagreement?_isSome_iff {a : Artifact} (ha : a ∈ p.artifacts) :
    (Rule.disagreement? (p.declarations settings) a).isSome = true ↔
      ¬AllSame (a.names settings) := by
  rw [Option.isSome_iff_ne_none, Ne, Rule.disagreement?_eq_none_iff, allSame_declared_iff hpaths ha]

theorem keyIdentities_eq (u : NodeUnit) :
    Rule.keyIdentities (p.context settings) u = u.keyNames p := by
  unfold Rule.keyIdentities NodeUnit.keyNames Package.context
  dsimp only
  cases hd : p.descriptor? with
  | none => rfl
  | some d =>
    have hkind : d.kind = .descriptor := by simpa using List.find?_some hd
    dsimp only
    cases hparsed : d.isParsed with
    | false => simp [registrations_eq_nil hparsed]
    | true =>
      rw [if_pos rfl, identitiesFor_declarations hpaths (List.mem_of_find?_eq_some hd),
        descriptor_identities hkind, List.filter_map]
      congr 1
      apply List.filter_congr
      intro entry _
      rw [Bool.eq_iff_iff, Function.comp_apply, List.contains_iff_mem,
        List.contains_iff_mem, List.mem_map]
      simp only [registrationLocation_inj, exists_eq_right]

variable {u : NodeUnit} (hu : u.PartOf p.artifacts)
include hu

omit hpaths in
/-- Files with syntax errors are passed over, but they declare nothing anyway. -/
theorem filterMap_declaring (settings : RuleSettings) {f : Artifact → Option β}
    (hnone : ∀ a ∈ p.artifacts, a.declarations settings = .empty → f a = none) :
    (Rule.declaring u).filterMap f = u.scriptsAndMarkup.filterMap f := by
  unfold Rule.declaring
  rw [List.filterMap_filter]
  apply List.filterMap_congr
  intro a ha
  cases hparsed : a.isParsed with
  | true => rfl
  | false => exact (hnone a (mem_of_part hu ha) (Artifact.declarations_of_not_parsed hparsed)).symm

theorem representatives_eq :
    Rule.representatives (p.context settings) u = u.compared settings p := by
  have hhead : ∀ a ∈ p.artifacts, (Rule.declared (p.declarations settings) a).head? =
      a.firstName? settings :=
    fun a ha => head?_declared hpaths ha
  have hdeclaring :
    (Rule.declaring u).filterMap (fun a => (Rule.declared (p.declarations settings) a).head?) =
      u.scriptsAndMarkup.filterMap (·.firstName? settings) := by
    rw [filterMap_declaring hu settings]
    · exact List.filterMap_congr fun a ha => hhead a (mem_of_part hu ha)
    · intro a ha hnone
      rw [hhead a ha]
      simp [Artifact.firstName?, hnone, FactSet.empty]
  unfold Rule.representatives NodeUnit.compared
  rw [keyIdentities_eq hpaths, ← hdeclaring]
  rfl

/-! ## The reference -/

/-- The declaration of a unit that the others are held against: the first one of the host stub, if
that agrees with itself, else one that prevails. -/
structure NodeUnit.IsReference (settings : RuleSettings) (p : Package) (u : NodeUnit)
    (r : Identity) : Prop where
  mem : r ∈ u.compared settings p
  ofStub : ∀ stub ∈ u.stub, AllSame (stub.names settings) →
    ∀ first ∈ stub.firstName? settings, r = first
  prevails : (∀ stub ∈ u.stub, AllSame (stub.names settings) → stub.firstName? settings = none) →
    Rule.Prevails (u.compared settings p) r

/-- Declarations under the path of the host stub are its own. -/
theorem path_ne_stub {stub : Artifact} (hstub : u.stub = some stub)
    (hnone : stub.firstName? settings = none) :
    ∀ i ∈ u.compared settings p, i.path ≠ stub.path := by
  obtain ⟨hmem, hkind⟩ := hu.stub stub hstub
  intro i hi hpath
  rcases List.mem_append.1 hi with hi | hi
  · obtain ⟨a, ha, hfirst⟩ := List.mem_filterMap.1 hi
    have heq : a.path = stub.path := (Artifact.path_of_firstName? hfirst).symm.trans hpath
    rw [path_injOn hpaths a (mem_of_part hu ha) stub hmem heq, hnone] at hfirst
    cases hfirst
  · unfold NodeUnit.keyNames at hi
    split at hi
    · cases hi
    · next d hd =>
      obtain ⟨entry, _, rfl⟩ := List.mem_map.1 hi
      have hkind' : d.kind = .descriptor := by simpa using List.find?_some hd
      rw [path_injOn hpaths d (List.mem_of_find?_eq_some hd) stub hmem hpath, hkind] at hkind'
      cases hkind'

theorem isReference_of_reference? {r : Identity}
    (h : Rule.reference? (p.declarations settings) u (u.compared settings p) = some r) :
    u.IsReference settings p r := by
  refine ⟨Rule.reference?_mem h, fun stub hstub hsame first hfirst => ?_, fun hnone => ?_⟩
  all_goals unfold Rule.reference? at h
  · have hagree : (Rule.disagreement? (p.declarations settings) stub).isSome = false := by
      rw [← Bool.not_eq_true, disagreement?_isSome_iff hpaths (hu.stub stub hstub).1, not_not]
      exact hsame
    have hcompared : ∃ rest, u.compared settings p = first :: rest := by
      unfold NodeUnit.compared NodeUnit.scriptsAndMarkup
      rw [Option.mem_def.1 hstub]
      exact ⟨_, by simp [Option.mem_def.1 hfirst]; rfl⟩
    obtain ⟨rest, hcompared⟩ := hcompared
    have hfind : (u.compared settings p).find? (·.path == stub.path) = some first := by
      rw [hcompared, List.find?_cons_of_pos]
      exact beq_iff_eq.2 (Artifact.path_of_firstName? hfirst)
    rw [Option.mem_def.1 hstub, Option.bind_some, hagree, if_neg Bool.false_ne_true,
      hfind, Option.some_or] at h
    exact (Option.some.inj h).symm
  · have hstubless :
      (u.stub.bind fun stub =>
        if (Rule.disagreement? (p.declarations settings) stub).isSome then none
        else (u.compared settings p).find? (·.path == stub.path)) = none := by
      rw [Option.bind_eq_none_iff]
      intro stub hstub
      split_ifs with hagree
      · rfl
      · rw [disagreement?_isSome_iff hpaths (hu.stub stub hstub).1, not_not] at hagree
        apply List.find?_eq_none.2
        intro i hi
        simpa using path_ne_stub hpaths hu hstub (hnone stub hstub hagree) i hi
    rw [hstubless, Option.none_or] at h
    exact Rule.prevails_of_head? h

/-! ## The findings -/

theorem parts_nodup : (u.scriptsAndMarkup.map (·.path)).Nodup := by
  have hkinds : (u.scriptsAndMarkup.map (·.kind)).Nodup := by
    obtain ⟨hstub, hdevice, hmarkup, -⟩ := hu
    unfold NodeUnit.scriptsAndMarkup
    cases hs : u.stub <;> cases hd : u.device <;> cases hm : u.markup <;> simp_all
  refine (List.Nodup.of_map _ hkinds).map_on fun a ha b hb => ?_
  exact path_injOn hpaths a (mem_of_part hu ha) b (mem_of_part hu hb)

/-- How many findings there are that a file of a unit disagrees with itself: one or none. -/
theorem countP_disagreements {a : Artifact} (ha : a ∈ u.scriptsAndMarkup) :
    (Rule.unitIdentity (p.context settings) u).countP
        (fun f => f.path = a.path && f.beginsWith Rule.disagreementWords) =
      (Rule.disagreement? (p.declarations settings) a).isSome.toNat := by
  have hdeclaring : (Rule.declaring u).filterMap (Rule.disagreement? (p.declarations settings)) =
      u.scriptsAndMarkup.filterMap (Rule.disagreement? (p.declarations settings)) := by
    apply filterMap_declaring hu settings
    intro b hb hnone
    rw [Rule.disagreement?_eq_none_iff, allSame_declared_iff hpaths hb, Artifact.names, hnone]
    exact allSame_nil
  have hpath : ∀ b : Artifact,
      ((Rule.disagreement? (p.declarations settings) b).map fun f =>
        decide (f.path = a.path)).getD false =
      (decide (b.path = a.path) && (Rule.disagreement? (p.declarations settings) b).isSome) := by
    intro b
    cases hb : Rule.disagreement? (p.declarations settings) b with
    | none => simp
    | some f => simp [(Rule.beginsWith_disagreement f hb).1]
  rw [← List.countP_filter, Rule.filter_disagreements]
  show ((Rule.declaring u).filterMap (Rule.disagreement? (p.declarations settings))).countP _ = _
  rw [hdeclaring, List.countP_filterMap]
  simp only [hpath]
  exact countP_of_nodup (parts_nodup hpaths hu) ha _

end Units

/-- The message that the files of a unit declare other names than the reference. -/
def NodeUnit.mismatchMessage (u : NodeUnit) (r : Identity) (others : List Identity) : String :=
  Rule.mismatchWords ++ u.key ++ ": expected \"" ++ r.value ++ "\" as declared in " ++
    r.describe ++ ", found " ++ String.intercalate ", "
      (others.map fun i => "\"" ++ i.value ++ "\" in " ++ i.describe)

theorem Rule.message_of_mismatch? {context : CheckContext} {u : NodeUnit} {f : Finding}
    (h : Rule.mismatch? context u = some f) {r : Identity}
    (hr : Rule.reference? context.facts u (Rule.representatives context u) = some r) :
    ∃ others, f.message = u.mismatchMessage r others ∧
      others.Perm ((Rule.representatives context u).filter (·.value ≠ r.value)) := by
  unfold Rule.mismatch? at h
  dsimp only at h
  rw [hr, Option.bind_some] at h
  obtain ⟨first, _, rfl⟩ := Option.map_eq_some_iff.1 h
  exact ⟨_, rfl, List.mergeSort_perm _ _⟩

/-- What is reported about the names of a unit: one finding for each part whose names are not all
the same, and one for the unit if the names that are compared are not all the same. That one names
the reference and exactly the declarations that differ from it, and stands at one of these with the
least path. Where a finding has to stand at the first of the names that differ, there is one. -/
structure NodeUnit.ReportsNames (settings : RuleSettings) (p : Package) (u : NodeUnit)
    (findings : List Finding) : Prop where
  within : ∀ a ∈ u.scriptsAndMarkup,
    findings.countP (fun f => f.path = a.path && f.beginsWith Rule.disagreementWords) = 1 ↔
      ¬AllSame (a.names settings)
  notWithin : ∀ a ∈ u.scriptsAndMarkup,
    findings.countP (fun f => f.path = a.path && f.beginsWith Rule.disagreementWords) = 0 ↔
      AllSame (a.names settings)
  ofPart : ∀ f ∈ findings, f.beginsWith Rule.disagreementWords = true →
    ∃ a ∈ u.scriptsAndMarkup, f.path = a.path
  between : findings.countP (·.beginsWith Rule.mismatchWords) = 1 ↔
    ¬AllSame ((u.compared settings p).map (·.value))
  notBetween : findings.countP (·.beginsWith Rule.mismatchWords) = 0 ↔
    AllSame ((u.compared settings p).map (·.value))
  told : ∀ f ∈ findings, f.beginsWith Rule.mismatchWords = true → ∃ r, u.IsReference settings p r ∧
    Rule.TellsMismatch f (u.compared settings p) r ∧ ∃ others, f.message =
      u.mismatchMessage r others ∧
      others.Perm ((u.compared settings p).filter (·.value ≠ r.value))
  divergesWithin : ∀ a ∈ u.scriptsAndMarkup, ¬AllSame (a.names settings) →
    Rule.divergent (Rule.declared (p.declarations settings) a) ≠ []
  divergesBetween : ¬AllSame ((u.compared settings p).map (·.value)) →
    ∃ r, Rule.reference? (p.declarations settings) u (u.compared settings p) = some r ∧
      (u.compared settings p).filter (·.value ≠ r.value) ≠ []

/-- The rule about type names reports on each unit of a package what it should. -/
theorem unitIdentity_reported {p : Package} (hpaths : (p.artifacts.map (·.path)).Nodup)
    (hunits : p.units = groupUnits p.artifacts) {u : NodeUnit} (hu : u ∈ p.units)
    (settings : RuleSettings) :
    u.ReportsNames settings p (Rule.unitIdentity (p.context settings) u) := by
  have hpart : u.PartOf p.artifacts := partOf_of_mem_groupUnits (hunits ▸ hu)
  have hrepresentatives : Rule.representatives (p.context settings) u = u.compared settings p :=
    representatives_eq hpaths hpart
  have hmismatch : Rule.mismatch? (p.context settings) u = none ↔
      AllSame ((u.compared settings p).map (·.value)) := by
    rw [Rule.mismatch?_eq_none_iff, hrepresentatives]
  have hcount : (Rule.unitIdentity (p.context settings) u).countP
    (·.beginsWith Rule.mismatchWords) =
      (Rule.mismatch? (p.context settings) u).isSome.toNat := by
    rw [List.countP_eq_length_filter, Rule.filter_mismatches]
    cases Rule.mismatch? (p.context settings) u <;> rfl
  have hwithin : ∀ a ∈ u.scriptsAndMarkup,
      (Rule.disagreement? (p.declarations settings) a).isSome = true ↔
        ¬AllSame (a.names settings) :=
    fun a ha => disagreement?_isSome_iff hpaths (mem_of_part hpart ha)
  constructor
  case within =>
    intro a ha
    rw [countP_disagreements hpaths hpart ha, ← hwithin a ha, Bool.toNat_eq_one]
  case notWithin =>
    intro a ha
    rw [countP_disagreements hpaths hpart ha, Bool.toNat_eq_zero,
      ← Bool.not_eq_true, hwithin a ha, not_not]
  case ofPart =>
    intro f hf hwords
    have hin : f ∈ (Rule.unitIdentity (p.context settings) u).filter
        (·.beginsWith Rule.disagreementWords) :=
      List.mem_filter.2 ⟨hf, hwords⟩
    rw [Rule.filter_disagreements] at hin
    obtain ⟨a, ha, hdisagree⟩ := List.mem_filterMap.1 hin
    exact ⟨a, List.mem_of_mem_filter ha, (Rule.beginsWith_disagreement f hdisagree).1⟩
  case between => rw [hcount, ← hmismatch, Bool.toNat_eq_one, Option.isSome_iff_ne_none]
  case notBetween =>
    rw [hcount, ← hmismatch, Bool.toNat_eq_zero, Option.isSome_eq_false_iff,
      Option.isNone_iff_eq_none]
  case told =>
    intro f hf hwords
    have hin : f ∈ (Rule.unitIdentity (p.context settings) u).filter
        (·.beginsWith Rule.mismatchWords) :=
      List.mem_filter.2 ⟨hf, hwords⟩
    rw [Rule.filter_mismatches, Option.mem_toList] at hin
    obtain ⟨r, hr, _⟩ := Option.bind_eq_some_iff.1 hin
    have htells := Rule.tellsMismatch_of_mismatch? hin hr
    have hmessage := Rule.message_of_mismatch? hin hr
    rw [hrepresentatives] at htells hmessage hr
    exact ⟨r, isReference_of_reference? hpaths hpart hr, htells, hmessage⟩
  case divergesWithin =>
    intro a ha hdiffer
    rw [Ne, Rule.divergent_eq_nil_iff, allSame_declared_iff hpaths (mem_of_part hpart ha)]
    exact hdiffer
  case divergesBetween =>
    intro hdiffer
    cases hr : Rule.reference? (p.declarations settings) u (u.compared settings p) with
    | none =>
      rw [Rule.reference?_eq_none hr] at hdiffer
      exact absurd allSame_nil hdiffer
    | some r =>
      refine ⟨r, rfl, fun hnil => hdiffer ⟨r.value, fun name hname => ?_⟩⟩
      obtain ⟨i, hi, rfl⟩ := List.mem_map.1 hname
      simpa using List.filter_eq_nil_iff.1 hnil i hi

/-- A device script and its host stub with another name. -/
def twoNames : List Artifact :=
  [⟨.hostStub, "a.js", "registerType('y')".toList,
    .scanned (Script.views "registerType('y')".toList)⟩,
    ⟨.deviceScript, "a.mcu.js", "static type='x'".toList,
      .scanned (Script.views "static type='x'".toList)⟩]

def twoNamesPackage : Package := ⟨"/", twoNames, groupUnits twoNames⟩

/-- There is one finding that the two files disagree. -/
theorem unitIdentity_reported_twoNames : (twoNamesPackage.artifacts.map (·.path)).Nodup ∧
    unitOf twoNames ("", "a") ∈ twoNamesPackage.units ∧
      (Rule.unitIdentity (twoNamesPackage.context {}) (unitOf twoNames ("", "a"))).countP
        (·.beginsWith Rule.mismatchWords) = 1 := by
  have hpaths : (twoNamesPackage.artifacts.map (·.path)).Nodup := by decide
  have hunit : unitOf twoNames ("", "a") ∈ twoNamesPackage.units :=
    List.mem_map_of_mem (List.mem_mergeSort.2 (by decide))
  have hnames : ((unitOf twoNames ("", "a")).compared {} twoNamesPackage).map (·.value) =
      ["y", "x"] := by
    decide +kernel
  refine ⟨hpaths, hunit, (unitIdentity_reported hpaths rfl hunit {}).between.2 ?_⟩
  rw [hnames, allSame_cons_iff]
  decide

end TwinNode
