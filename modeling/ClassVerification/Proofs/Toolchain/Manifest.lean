import ClassVerification.Proofs.FilePath.Text
import ClassVerification.Proofs.FilePath.Walk
import ClassVerification.Proofs.Session.Run
import ClassVerification.Toolchain.Basic

/-! Which manifest a build is given: the runs that it starts, and what their arguments name. -/
namespace ClassVerification

/-- The run of a program, if an action is one. -/
def Action.toolRun? : Action → Option ToolRun
  | .ran run => some run
  | _ => none

/-- The runs that are started from one session to another. -/
def Session.Ran (s t : Session) (runs : List ToolRun) : Prop :=
  ∃ new, t.actions = s.actions ++ new ∧ new.filterMap Action.toolRun? = runs

theorem FilePath.isName_manifestName : IsName manifestName := by
  refine ⟨?_, ?_, ?_⟩ <;> decide

namespace Session

variable {s t u : Session} {first second : List ToolRun}

theorem Ran.trans (h : s.Ran t first) (h' : t.Ran u second) : s.Ran u (first ++ second) := by
  obtain ⟨new, ht, rfl⟩ := h
  obtain ⟨more, hu, rfl⟩ := h'
  exact ⟨new ++ more, by simp [hu, ht], by simp⟩

theorem Ran.record (s : Session) (actions : List Action) :
    s.Ran (s.record actions) (actions.filterMap Action.toolRun?) := by
  refine ⟨_, actions_record s actions, ?_⟩
  rw [List.filterMap_map]
  congr 1
  funext a
  cases a <;> rfl

end Session

namespace Toolchain

variable {t : Toolchain} {s : Session} {project : FilePath} {place : Place} {stdout stderr : Text}
  {code : Int} {rest : List RunOutcome}

/-- A run that comes to its end hands over what it printed. -/
theorem run_run_finished (t : Toolchain) (arguments : List Text) (folder : FilePath)
    (hruns : s.toolRuns = .finished stdout stderr code :: rest) :
    Session.run (t.run arguments folder) s =
      (.ok ⟨stdout, stderr, code⟩,
        { s.record [.ran (t.toolRun arguments folder)] with toolRuns := rest }) := by
  have hleft : (s.record [.ran (t.toolRun arguments folder)]).toolRuns =
      .finished stdout stderr code :: rest := hruns
  simp only [run, Session.run_bind, Session.run_record, Session.run_get, hleft, Session.run_modify,
    finish, Session.run_pure]

/-- However a run ends, it is recorded, and nothing else is. -/
theorem ran_run (t : Toolchain) (arguments : List Text) (folder : FilePath) (s : Session) :
    s.Ran (Session.run (t.run arguments folder) s).2 [t.toolRun arguments folder] := by
  have hrecord : s.Ran (s.record [.ran (t.toolRun arguments folder)])
      [t.toolRun arguments folder] := Session.Ran.record s _
  simp only [run, Session.run_bind, Session.run_record, Session.run_get]
  cases hruns : (s.record [.ran (t.toolRun arguments folder)]).toolRuns with
  | nil => exact hrecord
  | cons outcome rest =>
    simp only [Session.run_bind, Session.run_modify]
    cases finish (t.toolRun arguments folder) t.settings.scarbBinary outcome <;> exact hrecord

/-- A build starts one run, in the folder of the project. -/
theorem ran_build (t : Toolchain) (project : FilePath) (s : Session) :
    s.Ran (Session.run (t.build project) s).2 [t.toolRun (buildArguments project) project] := by
  rw [build, SessionM.log, Session.run_record_bind]
  generalize hstart : s.record _ = u
  have hstart : s.Ran u [] := hstart ▸ Session.Ran.record s _
  have hrun := hstart.trans (ran_run t (buildArguments project) project u)
  rw [Session.run_bind]
  cases hw : Session.run (t.run (buildArguments project) project) u with
  | mk outcome w =>
    rw [hw] at hrun
    cases outcome with
    | error e => exact hrun
    | ok finished =>
      have hend (e : LogEvent) :
          s.Ran (w.record [.logged e]) [t.toolRun (buildArguments project) project] :=
        hrun.trans (Session.Ran.record w [.logged e])
      by_cases hcode : finished.exitCode != 0
      · simp only [hcode, if_true, Session.run_bind, Session.run_log, Session.run_fail]
        exact hend _
      · simp only [hcode]
        exact hend _

theorem run_ensureVersion (folder : FilePath)
    (hruns : s.toolRuns = .finished stdout stderr code :: rest)
    (hversion : installedVersion? stdout = some t.release.scarb) :
    Session.run (t.ensureVersion folder) s =
      (.ok (), { s.record [.ran (t.toolRun ["--version"] folder)] with toolRuns := rest }) := by
  simp [ensureVersion, installedVersion, Session.run_bind, run_run_finished t _ folder hruns,
    hversion]

/-- With the version of the release, the build of a folder is what follows the question for it. -/
theorem run_compileProject (hfolder : s.isFolder project = .ok true)
    (hruns : s.toolRuns = .finished stdout stderr code :: rest)
    (hversion : installedVersion? stdout = some t.release.scarb) :
    Session.run (t.compileProject project) s = Session.run (t.build project)
      { s.record [.ran (t.toolRun ["--version"] project)] with toolRuns := rest } := by
  simp [compileProject, Session.run_bind, hfolder,
    run_ensureVersion project hruns hversion]

theorem ran_compileProject (hfolder : s.isFolder project = .ok true)
    (hruns : s.toolRuns = .finished stdout stderr code :: rest)
    (hversion : installedVersion? stdout = some t.release.scarb) :
    s.Ran (Session.run (t.compileProject project) s).2
      [t.toolRun ["--version"] project, t.toolRun (buildArguments project) project] := by
  rw [run_compileProject hfolder hruns hversion]
  have hasked : s.Ran
      { s.record [.ran (t.toolRun ["--version"] project)] with toolRuns := rest }
      [t.toolRun ["--version"] project] := Session.Ran.record s _
  exact hasked.trans (ran_build t project _)

/-- The manifest of a build, read in the folder that a path leads to, is the one of that folder just
if the path does not hang on where it is read, or leads from the folder to itself. -/
theorem denotes_manifest_iff {tree : FileTree} {here : Place} (hnormal : project.IsNormal)
    (hplace : tree.resolve here project = .ok place) :
    tree.Denotes place (.ofText (project.child manifestName).text) place manifestName ↔
      project.root ≠ .relative ∨ tree.walk FileTree.linkLimit place project.names = .ok place := by
  have htext : FilePath.ofText (project.child manifestName).text = project.child manifestName :=
    FilePath.ofText_text (hnormal.child FilePath.isName_manifestName)
  have hnames (names : List Text) :
      (project.child manifestName).names = names ++ [manifestName] ↔ project.names = names := by
    simp [FilePath.child]
  have hroot : (project.child manifestName).root = project.root := rfl
  simp only [FileTree.Denotes, htext, hnames, hroot, exists_eq_left']
  by_cases hrelative : project.root = .relative
  · simp [hrelative]
  · have hwalk := FileTree.walk_of_resolve hplace
    simpa [hrelative] using hwalk

/-- Which manifest is built, for every path to a folder and a tool of the right version. The build
is started in the folder of the project, and the manifest that it is given, read from there, is the
one of that folder just if the path is absolute or leads from the folder to itself. -/
theorem compileProject_builds_manifest_iff (t : Toolchain) (s : Session) (path : Text)
    (hfolder : s.isFolder (.ofText path) = .ok true)
    (hruns : s.toolRuns = .finished stdout stderr code :: rest)
    (hversion : installedVersion? stdout = some t.release.scarb) :
    ∃ outcome after version build manifest place,
      Session.run (t.compileProject (.ofText path)) s = (outcome, after) ∧
      s.Ran after [version, build] ∧
      build.command = [t.settings.scarbBinary, "--manifest-path", manifest, "build"] ∧
      s.files.resolve s.here (.ofText path) = .ok place ∧
      s.files.resolve s.here (.ofText build.folder) = .ok place ∧
      (s.files.Denotes place (.ofText manifest) place manifestName ↔
        (FilePath.ofText path).root ≠ .relative ∨
          s.files.walk FileTree.linkLimit place (FilePath.ofText path).names = .ok place) := by
  obtain ⟨place, hplace⟩ := Session.exists_place_of_isFolder hfolder
  have hnormal := FilePath.isNormal_ofText path
  refine ⟨_, _, _, _, _, place, rfl, ran_compileProject hfolder hruns hversion, rfl, hplace, ?_,
    denotes_manifest_iff hnormal hplace⟩
  exact (FilePath.ofText_text hnormal).symm ▸ hplace

def sampleToolchain : Toolchain := ⟨.v284, {}⟩

/-- A working directory with one project in it, and a tool of the right version. -/
def sampleSession : Session where
  files := [
    (["work"], .folder),
    (["work", "proj"], .folder),
    (["work", "proj", "Scarb.toml"], .file [])]
  here := ["work"]
  toolRuns := [.finished "scarb 2.8.4 (dc0dbfd50)\n" [] 0, .finished [] [] 0]

/-- By its absolute path the project is built with its manifest. -/
theorem absolute_project_builds_manifest :
    ∃ outcome after version build manifest,
      Session.run (sampleToolchain.compileProject (.ofText "/work/proj")) sampleSession =
        (outcome, after) ∧
      sampleSession.Ran after [version, build] ∧
      build.command = [sampleToolchain.settings.scarbBinary, "--manifest-path", manifest, "build"] ∧
      ∃ place, sampleSession.files.resolve sampleSession.here (.ofText build.folder) = .ok place ∧
        sampleSession.files.Denotes place (.ofText manifest) place manifestName := by
  have hplace : sampleSession.files.resolve sampleSession.here (.ofText "/work/proj") =
      .ok ["work", "proj"] := by
    have hfirst : sampleSession.files.step [] "work" = .ok (.at ["work"]) := rfl
    have hsecond : sampleSession.files.step ["work"] "proj" = .ok (.at ["work", "proj"]) := rfl
    refine FileTree.resolve_of_walk (by decide) ?_
    exact (FileTree.walk_at hfirst).trans ((FileTree.walk_at hsecond).trans FileTree.walk_nil)
  have hfolder : sampleSession.isFolder (.ofText "/work/proj") = .ok true :=
    Session.isFolder_of_resolve rfl hplace rfl
  have hversion : installedVersion? "scarb 2.8.4 (dc0dbfd50)\n" =
      some sampleToolchain.release.scarb := rfl
  have habsolute : (FilePath.ofText "/work/proj").root ≠ .relative := by decide
  obtain ⟨outcome, after, version, build, manifest, place, hrun, hran, hcommand, -, hplace, hiff⟩ :=
    compileProject_builds_manifest_iff sampleToolchain sampleSession "/work/proj" hfolder rfl
      hversion
  exact ⟨outcome, after, version, build, manifest, hrun, hran, hcommand, place, hplace,
    hiff.2 (Or.inl habsolute)⟩

/-- By its relative path the project is not built with its manifest: the path of the manifest is
read in the folder that the same path has led to. -/
theorem relative_project_misses_manifest :
    ∃ outcome after version build manifest,
      Session.run (sampleToolchain.compileProject (.ofText "proj")) sampleSession =
        (outcome, after) ∧
      sampleSession.Ran after [version, build] ∧
      build.command = [sampleToolchain.settings.scarbBinary, "--manifest-path", manifest, "build"] ∧
      ∃ place, sampleSession.files.resolve sampleSession.here (.ofText build.folder) = .ok place ∧
        ¬ sampleSession.files.Denotes place (.ofText manifest) place manifestName := by
  have hplace : sampleSession.files.resolve sampleSession.here (.ofText "proj") =
      .ok ["work", "proj"] := by
    have hstep : sampleSession.files.step ["work"] "proj" = .ok (.at ["work", "proj"]) := rfl
    refine FileTree.resolve_of_walk (by decide) ?_
    exact (FileTree.walk_at hstep).trans FileTree.walk_nil
  have hfolder : sampleSession.isFolder (.ofText "proj") = .ok true :=
    Session.isFolder_of_resolve rfl hplace rfl
  have hversion : installedVersion? "scarb 2.8.4 (dc0dbfd50)\n" =
      some sampleToolchain.release.scarb := rfl
  have hwalk : sampleSession.files.walk FileTree.linkLimit ["work", "proj"]
      (FilePath.ofText "proj").names = .error .notFound := FileTree.walk_error rfl
  have hnormal := FilePath.isNormal_ofText "proj"
  refine ⟨_, _, _, _, _, rfl, ran_compileProject hfolder rfl hversion, rfl, _,
    (FilePath.ofText_text hnormal).symm ▸ hplace, fun h => ?_⟩
  rcases (denotes_manifest_iff hnormal hplace).1 h with hroot | hself
  · exact hroot rfl
  · rw [hwalk] at hself
    cases hself

end Toolchain

end ClassVerification
