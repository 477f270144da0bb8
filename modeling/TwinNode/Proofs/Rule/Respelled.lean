import TwinNode.Proofs.Package.Respelled
import TwinNode.Proofs.Rule.NodeMap
import TwinNode.Proofs.Validation.Contribution

namespace TwinNode

open TwinNode.Json (Value)
open TwinNode.Path (IsPath Winding Written FirstStays)

namespace Rule

variable {p q : Package} (h : List.Forall₂ Artifact.Respelled p.artifacts q.artifacts)
include h

theorem registrationFaults_respelled (descriptor : String) {nodes others : List (String × Value)}
    (hnodes : List.Forall₂ Respelled nodes others) :
    registrationFaults p descriptor nodes = registrationFaults q descriptor others := by
  have hkinds : ∀ path, (p.get? path).map (·.kind) = (q.get? path).map (·.kind) := fun path =>
    map_eq_of_rel (rel_find? (fun a b hab => by rw [hab.path_eq]) h) fun _ _ hab => hab.kind_eq
  have hstubs : p.ofKind .hostStub = q.ofKind .hostStub :=
    filter_respelled h (fun a b hab => by rw [hab.kind_eq]) fun a ha hkind => by
      rw [hkind] at ha
      cases ha
  have hfaults :=
    filterMap_eq_of_forall₂ hnodes (f := fun entry => registrationFault? p
      descriptor entry.1 entry.2)
    (g := fun entry => registrationFault? q descriptor entry.1 entry.2)
      fun entry _ other hentry => by
      rw [hentry.key_eq]
      exact registrationFault?_congr hkinds hentry.named_eq descriptor other.1
  have hregistered := filterMap_eq_of_forall₂ hnodes (f := fun entry => registeredStub? p entry.2)
    (g := fun entry => registeredStub? q entry.2) fun entry _ other hentry =>
      registeredStub?_congr hkinds hentry.named_eq
  unfold registrationFaults
  rw [hfaults, hregistered, hstubs]

theorem descriptorPointsToStub_respelled (settings : RuleSettings) :
    descriptorPointsToStub (p.context settings) = descriptorPointsToStub (q.context settings) := by
  have hdescriptor : Option.Rel Artifact.Respelled p.descriptor? q.descriptor? :=
    rel_find? (fun a b hab => by rw [hab.kind_eq]) h
  unfold descriptorPointsToStub
  rw [Package.context, Package.context, declarations_respelled h]
  dsimp only
  generalize p.descriptor? = descriptor, q.descriptor? = descriptor' at hdescriptor
  cases hdescriptor with
  | none => rfl
  | some hd =>
    dsimp only
    rw [hd.isParsed_eq, hd.path_eq, registrationFaults_respelled h _ hd.registrations]

end Rule

/-- Exactly the references that are written as pieces of a way to a path and have a first piece that
stays name this path. And where the entries of a node map are spelled in other ways, the files have
the same kinds, the units are the same, and the rule about the descriptor reports the same. -/
theorem spellings_alike :
    (∀ segments pieces written, IsPath segments → Winding segments pieces →
      Written pieces written.toList →
      (Path.normalizeReference written = String.ofList (List.intercalate ['/'] segments) ↔
        FirstStays pieces)) ∧
    (∀ nodes others, List.Forall₂ Respelled nodes others → ∀ files,
      classifyFiles files (referencedPaths nodes) = classifyFiles files (referencedPaths others)) ∧
    ∀ p q : Package, List.Forall₂ Artifact.Respelled p.artifacts q.artifacts →
      groupUnits p.artifacts = groupUnits q.artifacts ∧
        ∀ settings, Rule.descriptorPointsToStub (p.context settings) =
          Rule.descriptorPointsToStub (q.context settings) :=
  ⟨fun _ _ _ hpath hwinding hwritten => hpath.normalizeReference_eq_iff hwinding hwritten,
    fun _ _ hnodes files => classifyFiles_respelled hnodes files,
    fun _ _ h =>
      ⟨groupUnits_respelled h, fun settings => Rule.descriptorPointsToStub_respelled h settings⟩⟩

def namedScript (written : String) : Package where
  root := "/"
  artifacts :=
    [⟨.hostStub, "n/a.js", [], .scanned (Script.views [])⟩,
      ⟨.descriptor, descriptorName, [],
        .json (.object [("node-red", .object [("nodes", .object [("a", .str written)])])])⟩]
  units := []

theorem spellings_alike_namedScript : Path.normalizeReference " ./n\\x/..//a.js/ " = "n/a.js" ∧
    classifyFiles ["n/a.js"] (referencedPaths [("a", .str " ./n\\x/..//a.js/ ")]) =
      [("n/a.js", .hostStub)] ∧
    (groupUnits (namedScript " ./n\\x/..//a.js/ ").artifacts).map (·.descriptorKeys) = [["a"]] ∧
    Rule.descriptorPointsToStub ((namedScript " ./n\\x/..//a.js/ ").context {}) = [] := by
  have hpath : IsPath [['n'], "a.js".toList] := by decide
  have hslash : ∀ c ∈ ['/'], Path.Separates c := by decide
  have hslashes : ∀ c ∈ ['/', '/'], Path.Separates c := by decide
  have hback : ∀ c ∈ ['\\'], Path.Separates c := by decide
  have hplain : Written [['n'], "a.js".toList] "n/a.js".toList :=
    ⟨_, [], [], [], .cons (by decide) hslash (.single _), by decide, by decide, by decide, rfl⟩
  have hplainStays : FirstStays [['n'], "a.js".toList] := fun x hx _ => by
    obtain rfl := Option.some.inj hx
    decide
  have hwinding : Winding [['n'], "a.js".toList] [['.'], ['n'], ['x'], ['.', '.'], "a.js".toList] :=
    .dot [] _ (.detour [['n']] ["a.js".toList] (by decide) .straight)
  have hjoined : Path.Joined [['.'], ['n'], ['x'], ['.', '.'], "a.js".toList]
      "./n\\x/..//a.js".toList :=
    .cons (by decide) hslash
      (.cons (by decide) hback (.cons (by decide) hslash (.cons (by decide) hslashes (.single _))))
  have hwritten : Written [['.'], ['n'], ['x'], ['.', '.'], "a.js".toList]
      " ./n\\x/..//a.js/ ".toList :=
    ⟨_, ['/'], [' '], [' '], hjoined, hslash, by decide, by decide, rfl⟩
  have hstays : FirstStays [['.'], ['n'], ['x'], ['.', '.'], "a.js".toList] :=
    fun x hx hproper => by
    obtain rfl := Option.some.inj hx
    exact absurd rfl hproper.ne_dot
  have hentries : List.Forall₂ Respelled [("a", .str " ./n\\x/..//a.js/ ")]
      [("a", .str "n/a.js")] :=
    .cons (.spelled "a" hpath ⟨_, hwinding, hstays, hwritten⟩
      ⟨_, .straight, hplainStays, hplain⟩) .nil
  have hpackages : List.Forall₂ Artifact.Respelled (namedScript " ./n\\x/..//a.js/ ").artifacts
      (namedScript "n/a.js").artifacts :=
        .cons (.same _) (.cons (.descriptor _ rfl rfl hentries) .nil)
  obtain ⟨hnamed, hfiles, hreport⟩ := spellings_alike
  obtain ⟨hunits, hfindings⟩ := hreport _ _ hpackages
  refine ⟨(hnamed _ _ _ hpath hwinding hwritten).2 hstays, ?_, ?_, ?_⟩
  · exact (hfiles _ _ hentries ["n/a.js"]).trans (by decide)
  · rw [hunits]
    decide +kernel
  · rw [hfindings]
    decide +kernel

/-- A blank that is taken back first goes with the blanks around, and then the path is absolute. -/
theorem blank_taken_back_first : ¬∀ segments pieces written, IsPath segments →
    Winding segments pieces →
    Written pieces written.toList → Path.normalizeReference written =
      String.ofList (List.intercalate ['/'] segments) := by
  intro h
  have hslash : ∀ c ∈ ['/'], Path.Separates c := by decide
  have hjoined : Path.Joined [[' '], ['.', '.'], ['a']] " /../a".toList :=
    .cons (by decide) hslash (.cons (by decide) hslash (.single ['a']))
  have hwritten : Written [[' '], ['.', '.'], ['a']] " /../a".toList :=
    ⟨_, [], [], [], hjoined, by decide, by decide, by decide, rfl⟩
  have hnamed :=
    h [['a']] _ " /../a" (by decide) (.detour [] [['a']] (by decide) .straight) hwritten
  exact absurd hnamed (by decide)

end TwinNode
