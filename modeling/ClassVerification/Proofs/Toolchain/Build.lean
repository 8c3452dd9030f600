import Mathlib
import ClassVerification.Proofs.Session.Offline
import ClassVerification.Proofs.Toolchain.Manifest
import ClassVerification.Proofs.Toolchain.Version

/-! What a build runs, however its programs end, and what it takes that it succeeds. -/
namespace ClassVerification.Toolchain

variable {t : Toolchain} {s u : Session} {project folder : FilePath}

/-- The question for the version of the tool. -/
def versionRun (t : Toolchain) (project : FilePath) : ToolRun := t.toolRun ["--version"] project

/-- The build itself. -/
def buildRun (t : Toolchain) (project : FilePath) : ToolRun :=
  t.toolRun (buildArguments project) project

/-- A program is run, and it comes to its end or the work stops in an error. -/
theorem run_run_cases {arguments : List Text} {outcome : Except Error Finished}
    (h : Session.run (t.run arguments folder) s = (outcome, u)) :
    s.Ran u [t.toolRun arguments folder] ∧
      ((∃ e, outcome = .error e) ∨ ∃ finished rest,
        s.toolRuns = .finished finished.stdout finished.stderr finished.exitCode :: rest ∧
        outcome = .ok finished ∧ u.toolRuns = rest) := by
  have hran := ran_run t arguments folder s
  rw [h] at hran
  refine ⟨hran, ?_⟩
  cases hruns : s.toolRuns with
  | nil =>
    have hleft : (s.record [.ran (t.toolRun arguments folder)]).toolRuns = [] := hruns
    simp only [run, Session.run_bind, Session.run_record, Session.run_get, hleft,
      Session.run_fault] at h
    exact Or.inl ⟨_, (Prod.mk.inj h).1.symm⟩
  | cons result rest =>
    have hleft : (s.record [.ran (t.toolRun arguments folder)]).toolRuns = result :: rest := hruns
    cases result with
    | finished stdout stderr code =>
      rw [run_run_finished t arguments folder hruns] at h
      obtain ⟨rfl, rfl⟩ := Prod.mk.inj h
      exact Or.inr ⟨⟨stdout, stderr, code⟩, rest, rfl, rfl, rfl⟩
    | timedOut stdout stderr =>
      simp only [run, Session.run_bind, Session.run_record, Session.run_get, hleft,
        Session.run_modify, finish, Session.run_fail] at h
      exact Or.inl ⟨_, (Prod.mk.inj h).1.symm⟩
    | notStarted e =>
      simp only [run, Session.run_bind, Session.run_record, Session.run_get, hleft,
        Session.run_modify, finish, Session.run_fail] at h
      exact Or.inl ⟨_, (Prod.mk.inj h).1.symm⟩

/-- The next program comes to its end, and what it prints tells the version of the release. -/
def TellsVersion (t : Toolchain) (s : Session) : Prop :=
  ∃ stdout stderr code rest, s.toolRuns = .finished stdout stderr code :: rest ∧
    installedVersion? stdout = some t.release.scarb

/-- Without the version of the release, the question for it is all that is run. -/
theorem run_ensureVersion_error (h : ¬ t.TellsVersion s) (folder : FilePath) :
    ∃ e u, Session.run (t.ensureVersion folder) s = (.error e, u) ∧
      s.Ran u [t.versionRun folder] := by
  cases hrun : Session.run (t.run ["--version"] folder) s with
  | mk outcome w =>
    obtain ⟨hran, ⟨e, rfl⟩ | ⟨finished, rest, hruns, rfl, -⟩⟩ := run_run_cases hrun
    · refine ⟨e, w, ?_, hran⟩
      simp only [ensureVersion, installedVersion, Session.run_bind, hrun]
    · have hversion : installedVersion? finished.stdout ≠ some t.release.scarb :=
        fun hversion => h ⟨_, _, _, rest, hruns, hversion⟩
      obtain ⟨e, note, hstopped⟩ : ∃ e note, Session.run (t.ensureVersion folder) s =
          (.error e, w.record [.logged note]) := by
        simp only [ensureVersion, installedVersion, Session.run_bind, hrun, Session.run_pure,
          bne_iff_ne, ne_eq, hversion, not_false_eq_true, if_true, Session.run_log,
          Session.run_fail]
        exact ⟨_, _, rfl⟩
      exact ⟨e, _, hstopped, hran.trans (Session.Ran.record w [.logged note])⟩

theorem run_compileProject_of_not_folder (h : s.isFolder project ≠ .ok true) :
    ∃ e, Session.run (t.compileProject project) s = (.error e, s) := by
  cases hfolder : s.isFolder project with
  | error f =>
    simp only [compileProject, Session.run_bind, Session.run_get, Session.run_orFault, hfolder,
      Outcome.mapError_error]
    exact ⟨_, rfl⟩
  | ok found =>
    have hfound : found = false := by simpa [hfolder] using h
    simp only [compileProject, Session.run_bind, Session.run_get, Session.run_orFault, hfolder,
      hfound, Outcome.mapError_ok, Bool.not_false, if_true, Session.run_fail]
    exact ⟨_, rfl⟩

/-- A build goes no further than to the question for the version, or it is the build of a folder by
a tool of the right version. -/
theorem run_compileProject_cases {outcome : Except Error Unit}
    (h : Session.run (t.compileProject project) s = (outcome, u)) :
    (¬ (s.isFolder project = .ok true ∧ t.TellsVersion s) ∧ (∃ e, outcome = .error e) ∧
        ∃ runs, s.Ran u runs ∧ runs <+: [t.versionRun project]) ∨
      s.isFolder project = .ok true ∧ t.TellsVersion s ∧
        s.Ran u [t.versionRun project, t.buildRun project] := by
  by_cases hfolder : s.isFolder project = .ok true
  · by_cases hversion : t.TellsVersion s
    · obtain ⟨stdout, stderr, code, rest, hruns, htells⟩ := hversion
      have hran := ran_compileProject hfolder hruns htells
      rw [h] at hran
      exact Or.inr ⟨hfolder, ⟨stdout, stderr, code, rest, hruns, htells⟩, hran⟩
    · obtain ⟨e, w, hasked, hran⟩ := run_ensureVersion_error hversion project
      have hstopped : Session.run (t.compileProject project) s = (.error e, w) := by
        simp [compileProject, Session.run_bind, hfolder, hasked]
      obtain ⟨rfl, rfl⟩ := Prod.mk.inj (hstopped.symm.trans h)
      exact Or.inl ⟨fun hboth => hversion hboth.2, ⟨e, rfl⟩, _, hran, List.prefix_refl _⟩
  · obtain ⟨e, hstopped⟩ := run_compileProject_of_not_folder (t := t) hfolder
    obtain ⟨rfl, rfl⟩ := Prod.mk.inj (hstopped.symm.trans h)
    exact Or.inl ⟨fun hboth => hfolder hboth.1, ⟨e, rfl⟩, [], ⟨[], by simp, rfl⟩, List.nil_prefix⟩

theorem run_build_ok (h : Session.run (t.build project) s = (.ok (), u)) :
    ∃ stdout stderr rest, s.toolRuns = .finished stdout stderr 0 :: rest := by
  rw [build, SessionM.log, Session.run_record_bind] at h
  rcases Session.run_bind_cases h with ⟨e, -, he⟩ | ⟨finished, w, hrun, h⟩
  · cases he
  obtain ⟨-, ⟨e, he⟩ | ⟨_, rest, hruns, hfinished, -⟩⟩ := run_run_cases hrun
  · cases he
  cases hfinished
  have hcode : finished.exitCode = 0 := by
    by_contra hcode
    simp [Session.run_bind, hcode] at h
  exact ⟨_, _, rest, hcode ▸ hruns⟩

/-- A build that succeeds has run both programs to their end, the first with the version of the
release and the second with the exit code of success. -/
theorem run_compileProject_ok (h : Session.run (t.compileProject project) s = (.ok (), u)) :
    s.Ran u [t.versionRun project, t.buildRun project] ∧
      ∃ stdout stderr code out err rest,
        s.toolRuns = .finished stdout stderr code :: .finished out err 0 :: rest ∧
        installedVersion? stdout = some t.release.scarb := by
  rcases run_compileProject_cases h with
      ⟨-, ⟨e, he⟩, -⟩ | ⟨hfolder, ⟨stdout, stderr, code, left, hruns, hversion⟩, hran⟩
  · cases he
  rw [run_compileProject hfolder hruns hversion] at h
  obtain ⟨out, err, rest, hleft⟩ := run_build_ok h
  obtain rfl : left = .finished out err 0 :: rest := hleft
  exact ⟨hran, stdout, stderr, code, out, err, rest, hruns, hversion⟩

/-- A build succeeds if both programs end as they should; it takes no reply of the service. -/
theorem run_compileProject_finished {stdout stderr out err : Text} {code : Int}
    {rest : List RunOutcome} (hfolder : s.isFolder project = .ok true)
    (hruns : s.toolRuns = .finished stdout stderr code :: .finished out err 0 :: rest)
    (hversion : installedVersion? stdout = some t.release.scarb) :
    ∃ u, Session.run (t.compileProject project) s = (.ok (), u) ∧ u.replies = s.replies := by
  rw [run_compileProject hfolder hruns hversion, build, SessionM.log, Session.run_record_bind,
    Session.run_bind]
  generalize hstart : Session.record _ _ = w
  have hleft : w.toolRuns = .finished out err 0 :: rest := hstart ▸ rfl
  rw [run_run_finished t _ project hleft]
  exact ⟨_, rfl, hstart ▸ rfl⟩

open SessionM in
theorem isOffline_run (t : Toolchain) (arguments : List Text) (folder : FilePath) :
    IsOffline (t.run arguments folder) := by
  refine (isOffline_record (by simp)).bind fun _ => isOffline_get.bind fun current => ?_
  cases current.toolRuns with
  | nil => exact isOffline_fault _
  | cons result rest =>
    refine IsOffline.bind (isOffline_modify ?_) fun _ => ?_
    · exact fun _ => rfl
    cases finish (t.toolRun arguments folder) t.settings.scarbBinary result with
    | ok finished => exact isOffline_pure finished
    | error f => exact isOffline_fail f

open SessionM in
/-- A build sends no request. -/
theorem isOffline_compileProject (t : Toolchain) (project : FilePath) :
    IsOffline (t.compileProject project) := by
  have hversion : IsOffline (t.ensureVersion project) := by
    refine ((isOffline_run t _ project).bind fun _ => isOffline_pure _).bind fun installed => ?_
    split
    · exact (isOffline_log _ _ _ _).bind fun _ => isOffline_fail _
    · exact isOffline_pure _
  have hbuild : IsOffline (t.build project) := by
    refine (isOffline_log _ _ _ _).bind fun _ => (isOffline_run t _ _).bind fun finished => ?_
    split
    · refine (isOffline_log _ _ _ _).bind fun _ => (isOffline_fail _).bind fun _ => ?_
      exact isOffline_log _ _ _ _
    · exact isOffline_log _ _ _ _
  refine isOffline_get.bind fun _ => (isOffline_orFault _).bind fun found => ?_
  split
  · exact (isOffline_fail _).bind fun _ => hversion.bind fun _ => hbuild
  · exact hversion.bind fun _ => hbuild

theorem isVersion_scarb (release : Release) : IsVersion release.scarb := by
  have hnumber : IsNumber "2" ∧ IsNumber "5" ∧ IsNumber "0" ∧ IsNumber "8" ∧ IsNumber "4" := by
    simp only [IsNumber]
    decide
  obtain ⟨htwo, hfive, hzero, height, hfour⟩ := hnumber
  cases release with
  | v250 => exact ⟨"2", "5", "0", htwo, hfive, hzero, rfl⟩
  | v284 => exact ⟨"2", "8", "4", htwo, height, hfour, rfl⟩

theorem versionRun_ne_buildRun : t.versionRun project ≠ t.buildRun project := by
  intro h
  have hlength := congrArg (·.command.length) h
  cases hlength

/-- When it comes to the build, for every folder and everything that the tool may answer: the first
announced token that begins with a version has to begin with that of the release and go on with no
digit. The exit code of the answer does not count. -/
theorem compileProject_builds_iff (t : Toolchain) (s : Session) (project : FilePath) :
    ∃ outcome after runs, Session.run (t.compileProject project) s = (outcome, after) ∧
      s.Ran after runs ∧ runs <+: [t.versionRun project, t.buildRun project] ∧
      (t.buildRun project ∈ runs ↔ s.isFolder project = .ok true ∧
        ∃ stdout stderr code left, s.toolRuns = .finished stdout stderr code :: left ∧
          ∃ passed rest others,
            announced stdout = passed ++ (t.release.scarb ++ rest) :: others ∧
            (∀ token ∈ passed, ∀ v, IsVersion v → ¬ v <+: token) ∧ StartsNoDigit rest) := by
  have htells : t.TellsVersion s ↔ ∃ stdout stderr code left,
      s.toolRuns = .finished stdout stderr code :: left ∧ ∃ passed rest others,
        announced stdout = passed ++ (t.release.scarb ++ rest) :: others ∧
        (∀ token ∈ passed, ∀ v, IsVersion v → ¬ v <+: token) ∧ StartsNoDigit rest := by
    simp only [TellsVersion, installedVersion?_eq_some_iff, isVersion_scarb, true_and]
  rw [← htells]
  cases hrun : Session.run (t.compileProject project) s with
  | mk outcome after =>
    rcases run_compileProject_cases hrun with
        ⟨hstopped, -, runs, hran, hstarts⟩ | ⟨hfolder, hversion, hran⟩
    · have hshort : runs <+: [t.versionRun project, t.buildRun project] :=
        hstarts.trans (List.prefix_append _ [t.buildRun project])
      refine ⟨outcome, after, runs, rfl, hran, hshort, ⟨fun hmem => ?_, fun h => (hstopped h).elim⟩⟩
      have heq := List.mem_singleton.1 (hstarts.subset hmem)
      exact (versionRun_ne_buildRun heq.symm).elim
    · refine ⟨outcome, after, _, rfl, hran, List.prefix_refl _, ?_⟩
      simp [hfolder, hversion]

/-- A working directory with one project in it, and a tool that answers with an output and an exit
code. -/
def answeringSession (output : Text) (code : Int) : Session :=
  { sampleSession with toolRuns := [.finished output [] code, .finished [] [] 0] }

theorem isFolder_sampleSession : sampleSession.isFolder (.ofText "/work/proj") = .ok true := by cbv

/-- An output that reports the version is enough, whatever the exit code. -/
theorem ran_answeringSession {output : Text}
    (hversion : installedVersion? output = some sampleToolchain.release.scarb) (code : Int) :
    ∃ outcome after, Session.run (sampleToolchain.compileProject (.ofText "/work/proj"))
        (answeringSession output code) = (outcome, after) ∧
      (answeringSession output code).Ran after
        [sampleToolchain.versionRun (.ofText "/work/proj"),
          sampleToolchain.buildRun (.ofText "/work/proj")] := by
  have hfolder : (answeringSession output code).isFolder (.ofText "/work/proj") = .ok true :=
    isFolder_sampleSession
  exact ⟨_, _, rfl, ran_compileProject hfolder rfl hversion⟩

/-- A nightly build that comes before the release is taken for it. -/
theorem nightly_is_taken_for_release :
    announced "scarb 2.8.4-nightly-2024-09-12 (abc)\n" =
        [Text.ofString "2.8.4-nightly-2024-09-12"] ∧
      Text.ofString "2.8.4-nightly-2024-09-12" ≠ sampleToolchain.release.scarb ∧
      ∃ outcome after, Session.run (sampleToolchain.compileProject (.ofText "/work/proj"))
          (answeringSession "scarb 2.8.4-nightly-2024-09-12 (abc)\n" 0) = (outcome, after) ∧
        (answeringSession "scarb 2.8.4-nightly-2024-09-12 (abc)\n" 0).Ran after
          [sampleToolchain.versionRun (.ofText "/work/proj"),
            sampleToolchain.buildRun (.ofText "/work/proj")] := by
  refine ⟨by cbv, by decide, ran_answeringSession ?_ 0⟩
  rfl

/-- A tool that fails at telling its version is taken for the release, if it prints its version. -/
theorem failed_answer_is_taken_for_release :
    ∃ outcome after, Session.run (sampleToolchain.compileProject (.ofText "/work/proj"))
        (answeringSession "scarb 2.8.4 (abc)\n" 3) = (outcome, after) ∧
      (answeringSession "scarb 2.8.4 (abc)\n" 3).Ran after
        [sampleToolchain.versionRun (.ofText "/work/proj"),
          sampleToolchain.buildRun (.ofText "/work/proj")] :=
  ran_answeringSession rfl 3

end ClassVerification.Toolchain
