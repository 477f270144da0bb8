import TwinNode.Proofs.Package.Uncommented
import TwinNode.Proofs.Rule.Outline
import TwinNode.Proofs.Validation.Strict

/-! A script with blanked comments has the views of the script, so that blanking its
comments again changes nothing and the same is declared at the same places. Rules read no
texts. So a validation with a script whose comments are blanked gives the same reports. -/

namespace TwinNode

variable {fs : FileSystem} {file : Place} {bytes : Bytes}

theorem checkPackage_of_sameReading {p q : Package} (h : p.SameReading q) (settings : RuleSettings)
    (disabled : List String) :
    checkPackage settings (Rule.enabled disabled) p =
      checkPackage settings (Rule.enabled disabled) q :=
  checkPackage_of_outline h.outline (h.declarations settings) (enabled_subset_catalog disabled)

theorem validateRoot_uncommented (h : fs.Uncomments file bytes)
    (settings : Settings) (root : String) :
    validateRoot (fs.write file bytes) settings root = validateRoot fs settings root := by
  have hdiscover := h.discover (Path.Location.ofString root) settings.exclude settings.maxWorkers
  unfold validateRoot
  generalize discover (fs.write file bytes) (Path.Location.ofString root) settings.exclude
    settings.maxWorkers = run, discover fs (Path.Location.ofString root) settings.exclude
      settings.maxWorkers = run' at hdiscover
  cases hdiscover with
  | error e => rfl
  | ok hp =>
    dsimp only
    rw [checkPackage_of_sameReading hp]

/-- Comments never count. The code of a script is its own code and has the skeleton of the script,
and a host stub or a device script declares the same at the same places when its comments are
blanked. So where this is done to a script of a package, every validation gives the reports that it
gave. -/
theorem comments_never_count :
    (∀ text, Script.code (Script.code text) = Script.code text ∧
      Script.skeleton (Script.code text) = Script.skeleton text ∧
      ∀ settings path,
        stubDeclarations settings path (Script.views (Script.code text)) =
            stubDeclarations settings path (Script.views text) ∧
          deviceDeclarations path (Script.views (Script.code text)) =
            deviceDeclarations path (Script.views text)) ∧
    ∀ (fs : FileSystem) file bytes, fs.Uncomments file bytes → ∀ settings roots,
      validate (fs.write file bytes) settings roots = validate fs settings roots := by
  refine ⟨fun text => ⟨Script.code_code text, Script.skeleton_code text,
    fun settings path => ?_⟩, ?_⟩
  · exact ⟨stubDeclarations_code text settings path, deviceDeclarations_code text path⟩
  · intro fs file bytes h settings roots
    exact mapM_congr_of_mem fun root _ => validateRoot_uncommented h settings root

/-- A script that registers its type, with a comment that looks like another registration. -/
def commentedScript : List Char := "registerType('a') // registerType('b')".toList

/-- A file system with this script and its markup. -/
def commentedFiles : FileSystem where
  files := [(["pkg", "n.html"], []), (["pkg", "n.js"], Text.encode commentedScript)]
  directories := []
  workingDirectory := []
  room := usualRoom

theorem sound_commentedFiles : commentedFiles.Sound where
  distinct := by
    show [["pkg", "n.html"], ["pkg", "n.js"]].Nodup
    decide
  slashless := by
    have hnames : ∀ place ∈ [["pkg", "n.html"], ["pkg", "n.js"]], ∀ n ∈ place, '/' ∉ n.toList := by
      decide
    exact fun file hfile => hnames file.1 (List.mem_map_of_mem (f := Prod.fst) hfile)

theorem unix_commentedScript : Text.Unix commentedScript := by
  unfold Text.Unix
  decide +kernel

def commentedStub : Artifact :=
  ⟨.hostStub, "n.js", commentedScript, .scanned (Script.views commentedScript)⟩

theorem discover_commentedFiles : discover commentedFiles (Path.Location.ofString "pkg")
    ({} : Settings).exclude ({} : Settings).maxWorkers =
      .ok ⟨"/pkg", [emptyPage "n.html", commentedStub],
        groupUnits [emptyPage "n.html", commentedStub]⟩ := by
  have hroot : checkRoot commentedFiles (Path.Location.ofString "pkg") = .ok ["pkg"] := by rfl
  have hfound : foundFiles commentedFiles ({} : Settings).exclude ["pkg"] = ["n.html", "n.js"] :=
    sortPaths_eq (.refl _) (by decide)
  have hread : commentedFiles.read ((Path.Location.mk .top ["pkg"]).append commentedStub.path) =
      .ok (Text.encode commentedStub.text) := by
    unfold commentedFiles commentedStub
    generalize Text.encode commentedScript = bytes
    rfl
  have hscript := loadArtifact_written (a := commentedStub) (by rfl) unix_commentedScript hread
  exact discover_of_artifacts none [emptyPage "n.html", commentedStub] hroot
    (by decide) hfound rfl (by rfl)
    (List.forall_mem_cons.2 ⟨by rfl, List.forall_mem_singleton.2 hscript⟩) (by decide)

/-- The script is a host stub, and its one name is not that in the comment. -/
theorem comments_never_count_lookalike :
    commentedFiles.Uncomments ["pkg", "n.js"] (Text.encode (Script.code commentedScript)) ∧
      (∃ p, discover commentedFiles (Path.Location.ofString "pkg") ({} : Settings).exclude
        ({} : Settings).maxWorkers = .ok p ∧ commentedStub ∈ p.artifacts) ∧
      (commentedStub.declarations {}).identities.map (·.value) = ["a"] ∧
      validate (commentedFiles.write ["pkg", "n.js"] (Text.encode (Script.code commentedScript))) {}
        ["pkg"] = validate commentedFiles {} ["pkg"] := by
  have hcode : Text.Unix (Script.code commentedScript) := by
    unfold Text.Unix
    decide +kernel
  have h :
      commentedFiles.Uncomments ["pkg", "n.js"] (Text.encode (Script.code commentedScript)) := by
    refine ⟨sound_commentedFiles, ⟨"n.js", rfl, by decide⟩, Text.encode commentedScript, rfl, ?_⟩
    rw [Text.readText_encode unix_commentedScript, Text.readText_encode hcode]
  exact ⟨h, ⟨_, discover_commentedFiles, .tail _ (.head _)⟩, by decide +kernel,
    comments_never_count.2 _ _ _ h {} ["pkg"]⟩

end TwinNode
