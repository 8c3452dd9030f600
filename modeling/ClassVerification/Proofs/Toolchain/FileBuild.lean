import ClassVerification.Proofs.Discovery.Nearest
import ClassVerification.Proofs.Toolchain.Protocol

/-! Building the project of a file: it is the nearest one above the file, and it is built where it
lies. -/
namespace ClassVerification.Toolchain

open Discovery (HoldsManifest IsAbove IsNearest)

variable {s : Session} {file : FilePath} {root : Place}

theorem run_compileFile_of_error {e : Error} (t : Toolchain)
    (h : Discovery.projectRoot s file = .error e) :
    Session.run (t.compileFile file) s = (.error e, s) := by
  simp [compileFile, Session.run_bind, h]

theorem run_compileFile_of_ok {project : FilePath} (t : Toolchain)
    (h : Discovery.projectRoot s file = .ok project) :
    Session.run (t.compileFile file) s = Session.run (t.compileProject project) s := by
  simp [compileFile, Session.run_bind, h]

/-- A project that is a folder is built in it. -/
theorem ran_compileProject_folder (t : Toolchain) {project : FilePath}
    (hfolder : s.isFolder project = .ok true) :
    ∃ outcome after runs, Session.run (t.compileProject project) s = (outcome, after) ∧
      s.Ran after runs ∧ runs ≠ [] ∧ (∀ run ∈ runs, run.folder = project.text) ∧
      ∀ path, outcome ≠ .error (.failure (.invalidProject path .notAFolder)) := by
  obtain ⟨outcome, after, runs, hrun, hran, -, hcourse⟩ := run_compileProject_course t project s
  refine ⟨outcome, after, runs, hrun, hran, ?_, ?_, fun path => hcourse.ne_notAFolder hfolder⟩
  · exact List.ne_nil_of_mem (hcourse.version_mem_iff.2 hfolder)
  · exact fun run hmem => (hcourse.runs_there hmem).1

/-- The build of a file is that of its project, for every tree of files, folders and links and every
file in it. The project is the nearest folder above the file, links resolved, that holds a manifest,
and the search for it fails just if there is none. Whatever is run is run in that folder, so that no
build of a file is refused for want of a folder. -/
theorem compileFile_builds_nearest (t : Toolchain) (hwell : s.files.WellFormed)
    (hfile : s.isFile file = .ok true)
    (hshort : ∀ place folder, s.files.resolve s.here file = .ok place → IsAbove folder place →
      ¬ s.TooLong ((FilePath.absolute folder).child manifestName)) :
    ∃ place, s.files.resolve s.here file = .ok place ∧ s.files.LinkFree place ∧
      (∀ path, Discovery.projectRoot s file = .ok path ↔
        ∃ root, path = .absolute root ∧ IsNearest s.files place root) ∧
      (∀ e, Discovery.projectRoot s file = .error e ↔
        e = .failure (.invalidProject file.text .noManifestAbove) ∧
          ∀ folder, IsAbove folder place → ¬ HoldsManifest s.files folder) ∧
      ∃ outcome after runs, Session.run (t.compileFile file) s = (outcome, after) ∧
        s.Ran after runs ∧
        (runs = [] ↔ ∀ folder, IsAbove folder place → ¬ HoldsManifest s.files folder) ∧
        (∀ run ∈ runs, ∃ root, IsNearest s.files place root ∧
          run.folder = (FilePath.absolute root).text ∧
          s.files.resolve s.here (.ofText run.folder) = .ok root) ∧
        ∀ path, outcome ≠ .error (.failure (.invalidProject path .notAFolder)) := by
  obtain ⟨place, bytes, hplace, hnode, hlinkFree⟩ := Discovery.exists_place_of_isFile hwell hfile
  have hshort (folder : Place) (h : IsAbove folder place) := hshort place folder hplace h
  have hseeks := Discovery.seeks_projectRoot hwell hfile hplace hnode hshort
  refine ⟨place, hplace, hlinkFree, hseeks.eq_ok_iff, hseeks.eq_error_iff, ?_⟩
  generalize hproject : Discovery.projectRoot s file = outcome at hseeks
  cases hseeks with
  | @found root hnearest =>
    have hfolder := Discovery.isFolder_of_isAbove hwell hnode hnearest.above
    obtain ⟨hresolve, hisFolder⟩ :=
      Discovery.resolve_absolute hwell hfolder (hshort root hnearest.above) hnearest.holds
    have hnormal : (FilePath.absolute root).IsNormal := fun name hname =>
      (hwell.isEntryName (FileTree.isFolder_iff.1 hfolder) name hname).isName
    obtain ⟨outcome, after, runs, hrun, hran, hruns, hthere, hnot⟩ :=
      ran_compileProject_folder t hisFolder
    refine ⟨outcome, after, runs, (run_compileFile_of_ok t hproject).trans hrun, hran,
      iff_of_false hruns ?_, fun run hmem => ⟨root, hnearest, hthere run hmem, ?_⟩, hnot⟩
    · exact fun hnone => hnone root hnearest.above hnearest.holds
    · rw [hthere run hmem, FilePath.ofText_text hnormal, hresolve]
  | missing hnone =>
    exact ⟨_, _, [], run_compileFile_of_error t hproject, ⟨[], by simp, rfl⟩,
      iff_of_true rfl hnone, by simp, by simp⟩

/-- A project inside another, whose manifest is a link, with a folder named like a manifest in it.
The file to build is told by a link in the outer project. -/
def nestedSession : Session where
  files := [
    (["outer"], .folder),
    (["outer", "Scarb.toml"], .file []),
    (["outer", "main.cairo"], .link "inner/src/lib.cairo"),
    (["outer", "inner"], .folder),
    (["outer", "inner", "Scarb.toml"], .link "../Scarb.toml"),
    (["outer", "inner", "src"], .folder),
    (["outer", "inner", "src", "Scarb.toml"], .folder),
    (["outer", "inner", "src", "lib.cairo"], .file [])]
  here := ["outer"]
  toolRuns := [.finished "scarb 2.8.4\n" [] 0, .finished [] [] 0]

/-- The folder of the inner project. -/
abbrev innerProject : Place := ["outer", "inner"]

abbrev sourceFolder : Place := innerProject ++ [Text.ofString "src"]

/-- The place that the link leads to. -/
abbrev innerSource : Place := sourceFolder ++ [Text.ofString "lib.cairo"]

theorem isNearest_nestedSession : IsNearest nestedSession.files innerSource innerProject where
  above := Discovery.isAbove_concat_iff.2 (List.prefix_append _ _)
  holds := by
    have hwalk : nestedSession.files.walk FileTree.linkLimit innerProject [manifestName] =
        .ok ["outer", "Scarb.toml"] := by cbv
    exact .link rfl hwalk rfl
  deepest := by
    intro folder habove hholds
    rcases List.prefix_concat_iff.1 (Discovery.isAbove_concat_iff.1 habove) with rfl | hfolder
    · have hwalk : nestedSession.files.walk FileTree.linkLimit sourceFolder [manifestName] =
          .ok ["outer", "inner", "src", "Scarb.toml"] := by cbv
      obtain ⟨place, bytes, hplace, hnode⟩ :=
        (FileTree.holdsFile_iff rfl FilePath.isEntryName_manifestName).1 hholds
      obtain rfl := Except.ok.inj (hwalk.symm.trans hplace)
      cases hnode
    · exact hfolder

/-- No manifest above the file is too far to be asked for. -/
theorem not_tooLong_nestedSession {folder : Place} (h : IsAbove folder innerSource) :
    ¬ nestedSession.TooLong ((FilePath.absolute folder).child manifestName) := by
  have htold : ∃ found,
      nestedSession.isFile ((FilePath.absolute folder).child manifestName) = .ok found := by
    have hfolder : folder ∈ sourceFolder.inits :=
      (List.mem_inits _ _).2 (Discovery.isAbove_concat_iff.1 h)
    simp only [List.cons_append, List.nil_append, List.inits, List.map_cons,
      List.map_nil, List.mem_cons, List.not_mem_nil, or_false] at hfolder
    rcases hfolder with rfl | rfl | rfl | rfl
    · exact ⟨false, by cbv⟩
    · exact ⟨true, by cbv⟩
    · exact ⟨true, by cbv⟩
    · exact ⟨false, by cbv⟩
  obtain ⟨found, hfound⟩ := htold
  intro hlong
  obtain ⟨f, hf⟩ := Session.isFile_eq_error_iff.2 hlong
  cases hf.symm.trans hfound

/-- The inner project is the one that is built. -/
theorem linked_file_builds_inner_project :
    nestedSession.files.WellFormed ∧ nestedSession.isFile (.ofText "main.cairo") = .ok true ∧
      Discovery.projectRoot nestedSession (.ofText "main.cairo") = .ok (.absolute innerProject) ∧
      ∃ outcome after runs,
        Session.run (sampleToolchain.compileFile (.ofText "main.cairo")) nestedSession =
          (outcome, after) ∧
        nestedSession.Ran after runs ∧ runs ≠ [] ∧ ∀ run ∈ runs, run.folder = "/outer/inner" := by
  have hwell : nestedSession.files.WellFormed := by decide
  have hfile : nestedSession.isFile (.ofText "main.cairo") = .ok true := by cbv
  have hplace : nestedSession.files.resolve nestedSession.here (.ofText "main.cairo") =
      .ok innerSource := by cbv
  have hnearest := isNearest_nestedSession
  obtain ⟨place, hother, -, hroot, -, outcome, after, runs, hrun, hran, hnone, hruns, -⟩ :=
    compileFile_builds_nearest sampleToolchain hwell hfile fun place folder h habove => by
      obtain rfl := Except.ok.inj (hplace.symm.trans h)
      exact not_tooLong_nestedSession habove
  obtain rfl := Except.ok.inj (hplace.symm.trans hother)
  refine ⟨hwell, hfile, (hroot _).2 ⟨_, rfl, hnearest⟩, outcome, after, runs, hrun, hran, ?_,
    fun run hmem => ?_⟩
  · exact fun hnil => hnone.1 hnil _ hnearest.above hnearest.holds
  · obtain ⟨root, hother, hfolder, -⟩ := hruns run hmem
    rw [hfolder, hother.unique hnearest]
    rfl

end ClassVerification.Toolchain
