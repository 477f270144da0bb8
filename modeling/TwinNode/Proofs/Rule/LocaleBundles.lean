import TwinNode.Proofs.FileSystem.Addition
import TwinNode.Proofs.Package.LocaleOwner
import TwinNode.Proofs.Package.Slots
import TwinNode.Proofs.Rule.Reported

namespace TwinNode

open TwinNode.Rule

def Rule.noBundleFor (u : NodeUnit) (stub : Artifact) : Finding where
  path := stub.path
  message := "No locale bundle found for node " ++ u.key ++ "; expected " ++
    Path.child u.directory ("locales/<lang>/" ++ u.stem ++ ".json")

/-- Where only one thing gives something, this is all there is. -/
theorem filterMap_of_only {f : α → Option β} {xs : List α} (h : xs.Nodup) {x : α} (hx : x ∈ xs)
    (honly : ∀ y ∈ xs, y ≠ x → f y = none) : xs.filterMap f = (f x).toList := by
  obtain ⟨before, after, rfl⟩ := List.append_of_mem hx
  obtain ⟨_, hafter, hdisjoint⟩ := List.nodup_append.1 h
  have hbefore : before.filterMap f = [] := List.filterMap_eq_nil_iff.2 fun y hy =>
    honly y (List.mem_append_left _ hy) (hdisjoint y hy x List.mem_cons_self)
  have hafter : after.filterMap f = [] := List.filterMap_eq_nil_iff.2 fun y hy =>
    honly y (List.mem_append_right _ (List.mem_cons_of_mem x hy)) fun heq =>
      (List.nodup_cons.1 hafter).1 (heq ▸ hy)
  rw [List.filterMap_append, List.filterMap_cons, hbefore, hafter]
  cases f x <;> rfl

section Discovered

variable {fs : FileSystem} {root : Path.Location} {exclude : List String} {workers : Int}
  {p : Package} {place : Place} (h : discover fs root exclude workers = .ok p)
  (hroot : checkRoot fs root = .ok place)
include h hroot

/-- A unit has a bundle if a found file has the path of one. -/
theorem locales_nonempty_iff (hnamed : fs.Named)
    (hback : ∀ names ∈ fs.filesBelow place, ∀ n ∈ names, '\\' ∉ n.toList)
    {key : UnitKey} (hstem : '/' ∉ key.2.toList) :
    (unitOf p.artifacts key).locales ≠ [] ↔
      ∃ path ∈ foundFiles fs exclude place, BundlePath key.1 key.2 path := by
  have hnames : ∀ path ∈ foundFiles fs exclude place, "" ∉ Path.segments path := by
    intro path hpath hin
    obtain ⟨names, _, _, _, hsegments, hentry⟩ := hnamed.names_of_found hback hpath
    exact (hentry "" (hsegments ▸ hin)).nonempty rfl
  constructor
  · intro hne
    obtain ⟨a, ha⟩ := List.exists_mem_of_ne_nil _ hne
    obtain ⟨ha, howned⟩ := List.mem_filter.1 ha
    simp only [Bool.and_eq_true, decide_eq_true_eq, beq_iff_eq] at howned
    obtain ⟨hfound, hclass, _⟩ := found_of_mem_artifacts h hroot ha
    rw [howned.1] at hclass
    exact ⟨a.path, hfound, (bundle_iff (hnames _ hfound) hstem).1
      ⟨(classify_eq_some_iff.1 hclass).1, howned.2⟩⟩
  · rintro ⟨path, hfound, hbundle⟩
    obtain ⟨hkind, howner⟩ := (bundle_iff (hnames _ hfound) hstem).2 hbundle
    obtain ⟨a, ha, rfl, hlocale⟩ :=
      exists_artifact h hroot hfound (classify_eq_some_iff.2 ⟨hkind, nofun⟩)
    exact List.ne_nil_of_mem (List.mem_filter.2 ⟨ha, by simp [hlocale, howner]⟩)

/-- The rule looks at a host stub once, in its unit. -/
theorem localeBundles_at {settings : RuleSettings} (hrequired : settings.requireLocale = true)
    {u : NodeUnit} (hu : u ∈ p.units) {stub : Artifact} (hstub : u.stub = some stub) :
    (localeBundles (p.context settings)).filter (·.path == stub.path) =
      if u.locales.isEmpty then [noBundleFor u stub] else [] := by
  obtain ⟨_, _, _, _, hunits⟩ := discover_eq_ok h
  have hnodup : p.units.Nodup := hunits ▸ groupUnits_nodup
  -- Another unit with a host stub at this path would be the unit of this host stub.
  have hunit : ∀ v ∈ p.units, ∀ other, v.stub = some other → other.path = stub.path → v = u := by
    intro v hv other hother hpath
    obtain ⟨key, _, rfl⟩ := (mem_units h).1 hv
    obtain ⟨key', _, rfl⟩ := (mem_units h).1 hu
    obtain ⟨hin, _, rfl⟩ := mem_of_slot? hother
    obtain ⟨hin', _, rfl⟩ := mem_of_slot? hstub
    rw [artifact_eq_of_path h hroot hin hin' hpath]
  unfold localeBundles Package.context
  dsimp only
  rw [if_pos hrequired, List.filter_filterMap, filterMap_of_only hnodup hu]
  · rw [hstub]
    dsimp only
    split
    · simp [noBundleFor]
    · rfl
  · intro v hv hne
    cases hother : v.stub with
    | none => rfl
    | some other =>
      dsimp only
      split
      · refine Option.filter_eq_none_iff.2 fun f hf => ?_
        obtain rfl := Option.some.inj hf
        simpa using fun hpath => hne (hunit v hv other hother hpath)
      · rfl

/-- Where locale bundles are asked for, a host stub in its unit is reported once if no found file
has the path of a bundle of the unit, and else not at all. -/
theorem localeBundles_reported (hnamed : fs.Named)
    (hback : ∀ names ∈ fs.filesBelow place, ∀ n ∈ names, '\\' ∉ n.toList)
    (settings : RuleSettings) (hrequired : settings.requireLocale = true) {u : NodeUnit}
    (hu : u ∈ p.units) {stub : Artifact} (hstub : u.stub = some stub) :
    (p.reportedBy settings "P2" stub.path = diagnosticsOf "P2" [noBundleFor u stub] ↔
      ¬∃ path ∈ foundFiles fs exclude place, BundlePath u.directory u.stem path) ∧
    (p.reportedBy settings "P2" stub.path = [] ↔
      ∃ path ∈ foundFiles fs exclude place, BundlePath u.directory u.stem path) := by
  have hbundles : u.locales ≠ [] ↔
      ∃ path ∈ foundFiles fs exclude place, BundlePath u.directory u.stem path := by
    obtain ⟨key, _, rfl⟩ := (mem_units h).1 hu
    obtain ⟨_, _, rfl⟩ := mem_of_slot? hstub
    have hstem : '/' ∉ stub.unitKey.2.toList := by
      simp only [Artifact.unitKey, Artifact.stem]
      exact Path.slash_not_mem_stem stub.path
    rw [unitOf_directory, unitOf_stem]
    exact locales_nonempty_iff h hroot hnamed hback hstem
  have hreported := reportedBy_eq settings p "P2" stub.path rfl rfl rfl
  rw [localeBundles_at h hroot hrequired hu hstub] at hreported
  rw [hreported, ← hbundles]
  cases hlocales : u.locales with
  | nil =>
    refine ⟨iff_of_true rfl (by simp), iff_of_false ?_ (by simp)⟩
    exact List.cons_ne_nil _ _
  | cons a locales =>
    refine ⟨iff_of_false ?_ (by simp), iff_of_true rfl (by simp)⟩
    exact (List.cons_ne_nil _ _).symm

end Discovered

def emptyTranslation (path : String) : Artifact := ⟨.localeBundle, path, [], .present⟩

/-- Two nodes, a page for the language of the second one, and one that belongs to a node in a
directory `locales`. -/
def nestedLocales : FileSystem where
  files :=
    [(["a.html"], []), (["a.js"], []), (["b.html"], []), (["b.js"], []),
      (["locales", "de", "b.HTM"], []),
    (["locales", "en", "locales", "a.html"], [])]
  directories := []
  workingDirectory := []
  room := usualRoom

def nestedLocalesArtifacts : List Artifact :=
  [emptyPage "a.html", emptyStub "a.js", emptyPage "b.html", emptyStub "b.js",
    emptyTranslation "locales/de/b.HTM", emptyTranslation "locales/en/locales/a.html"]

def nestedLocalesPackage : Package :=
  ⟨"/", nestedLocalesArtifacts, groupUnits nestedLocalesArtifacts⟩

theorem foundFiles_nestedLocales : foundFiles nestedLocales [] [] =
    ["a.html", "a.js", "b.html", "b.js", "locales/de/b.HTM", "locales/en/locales/a.html"] := by
  refine sortPaths_eq (.of_eq ?_) (by decide)
  rfl

theorem discover_nestedLocales :
    discover nestedLocales (Path.Location.ofString "/") [] 1 = .ok nestedLocalesPackage := by
  have hroot : checkRoot nestedLocales (Path.Location.ofString "/") = .ok [] := by rfl
  refine discover_of_artifacts none nestedLocalesArtifacts hroot (by decide)
    foundFiles_nestedLocales rfl (by rfl) ?_ (by decide)
  unfold nestedLocalesArtifacts
  simp only [List.forall_mem_cons]
  exact ⟨by rfl, by rfl, by rfl, by rfl, by rfl, by rfl, List.forall_mem_nil _⟩

theorem localeBundles_reported_nestedLocales :
    discover nestedLocales (Path.Location.ofString "/") [] 1 = .ok nestedLocalesPackage ∧
      nestedLocalesPackage.reportedBy {} "P2" "a.js" =
        diagnosticsOf "P2"
          [noBundleFor (unitOf nestedLocalesArtifacts ("", "a")) (emptyStub "a.js")] ∧
      nestedLocalesPackage.reportedBy {} "P2" "b.js" = [] := by
  have hroot : checkRoot nestedLocales (Path.Location.ofString "/") = .ok [] := by rfl
  have hback : ∀ names ∈ nestedLocales.filesBelow [], ∀ n ∈ names, '\\' ∉ n.toList := by
    have hbelow : nestedLocales.filesBelow [] =
      [["a.html"], ["a.js"], ["b.html"], ["b.js"], ["locales", "de", "b.HTM"],
        ["locales", "en", "locales", "a.html"]] := by rfl
    rw [hbelow]
    decide
  have hnamed : nestedLocales.Named := by decide
  have hunit : ∀ stub ∈ [emptyStub "a.js", emptyStub "b.js"],
      unitOf nestedLocalesArtifacts stub.unitKey ∈ nestedLocalesPackage.units := by
    simp only [List.forall_mem_cons]
    exact ⟨unitOf_mem_units discover_nestedLocales (.tail _ (.head _)) rfl,
      unitOf_mem_units discover_nestedLocales (.tail _ (.tail _ (.tail _ (.head _)))) rfl,
        List.forall_mem_nil _⟩
  refine ⟨discover_nestedLocales, ?_, ?_⟩
  · have hreported :=
      localeBundles_reported discover_nestedLocales hroot hnamed hback {} rfl
        (hunit _ (.head _)) (by rfl)
    refine hreported.1.2 ?_
    rintro ⟨path, hfound, hbundle⟩
    have hnone : ∀ path ∈ foundFiles nestedLocales [] [], localeOwner? path ≠ some ("", "a") := by
      rw [foundFiles_nestedLocales]
      decide
    exact hnone path hfound (hbundle.owner (by decide)).2
  · have hreported :=
      localeBundles_reported discover_nestedLocales hroot hnamed hback {} rfl
        (hunit _ (.tail _ (.head _))) (by rfl)
    refine hreported.2.2 ⟨"locales/de/b.HTM", ?_, ["de"], "HTM", by decide,
      by decide, by decide, rfl⟩
    rw [foundFiles_nestedLocales]
    decide

end TwinNode
