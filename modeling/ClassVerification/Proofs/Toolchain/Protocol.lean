import ClassVerification.Proofs.Toolchain.Build

/-! The programs that a build runs and what becomes of them: how many are run, in which folder, and
the outcome that each way to end brings. -/
namespace ClassVerification.Toolchain

/-- What is kept of an output that was cut short: nothing is an empty text, and bytes are read with
replacements. -/
inductive Keeps : Captured → Text → Prop where
  | nothing : Keeps .nothing ""
  | text (t : Text) : Keeps (.text t) t
  | bytes (bs : List UInt8) : Keeps (.bytes bs) (Utf8.decodeReplacing bs)

variable {t : Toolchain} {s : Session} {project : FilePath}

theorem keeps_iff {captured : Captured} {kept : Text} :
    Keeps captured kept ↔ kept = captured.asText := by
  constructor
  · intro h
    cases h <;> rfl
  · rintro rfl
    cases captured with
    | nothing => exact .nothing
    | text t => exact .text t
    | bytes bs => exact .bytes bs

/-- What is told of a run that does not come to its end. It has no exit code. -/
inductive Interrupts (t : Toolchain) (run : ToolRun) : RunOutcome → Failure → Prop where
  | timedOut {out err : Captured} {stdout stderr : Text} : Keeps out stdout → Keeps err stderr →
      Interrupts t run (.timedOut out err)
        (.build (.timedOut run.command run.timeout) stdout stderr none)
  | notStarted (reason : LaunchError) : Interrupts t run (.notStarted reason)
      (.build (.cannotRun t.settings.scarbBinary reason.message) "" "" none)

theorem Interrupts.unique {t : Toolchain} {run : ToolRun} {result : RunOutcome} {f g : Failure}
    (hf : Interrupts t run result f) (hg : Interrupts t run result g) : f = g := by
  cases hf with
  | timedOut hout herr =>
    cases hg with
    | timedOut hout' herr' =>
      rw [keeps_iff.1 hout, keeps_iff.1 hout', keeps_iff.1 herr, keeps_iff.1 herr']
  | notStarted =>
    cases hg
    rfl

/-- How a program stops the work that waits for it, by what is next in the script. -/
inductive Breaks (t : Toolchain) (run : ToolRun) : List RunOutcome → Error → Prop where
  | interrupted {result : RunOutcome} {rest : List RunOutcome} {f : Failure} :
      Interrupts t run result f → Breaks t run (result :: rest) (.failure f)
  | exhausted : Breaks t run [] (.fault .noToolRunLeft)

/-- What becomes of the question for the version. -/
inductive Asks (t : Toolchain) (project : FilePath) :
    List RunOutcome → Except Error Unit → Prop where
  | broken {script : List RunOutcome} {e : Error} : Breaks t (t.versionRun project) script e →
      Asks t project script (.error e)
  | matching {stdout stderr : Text} {code : Int} {rest : List RunOutcome} :
      installedVersion? stdout = some t.release.scarb →
      Asks t project (.finished stdout stderr code :: rest) (.ok ())
  | other {stdout stderr version : Text} {code : Int} {rest : List RunOutcome} :
      installedVersion? stdout = some version → version ≠ t.release.scarb →
      Asks t project (.finished stdout stderr code :: rest)
        (.error (.failure (.unsupportedToolchain version t.release.cairo)))
  | unread {stdout stderr : Text} {code : Int} {rest : List RunOutcome} :
      installedVersion? stdout = none →
      Asks t project (.finished stdout stderr code :: rest)
        (.error (.failure (.unsupportedToolchain "unknown" t.release.cairo)))

/-- What becomes of the build itself. -/
inductive Builds (t : Toolchain) (project : FilePath) :
    List RunOutcome → Except Error Unit → Prop where
  | broken {script : List RunOutcome} {e : Error} : Breaks t (t.buildRun project) script e →
      Builds t project script (.error e)
  | passed {stdout stderr : Text} {rest : List RunOutcome} :
      Builds t project (.finished stdout stderr 0 :: rest) (.ok ())
  | failed {stdout stderr : Text} {code : Int} {rest : List RunOutcome} : code ≠ 0 →
      Builds t project (.finished stdout stderr code :: rest)
        (.error (.failure (.build (.failed project.text code) stdout stderr (some code))))

/-- The courses of a build: which programs are run and how it ends, by whether the project is a
folder and by what the programs come to. -/
inductive Course (t : Toolchain) (project : FilePath) :
    List RunOutcome → Except Fault Bool → List ToolRun → Except Error Unit → Prop where
  | unknown {script : List RunOutcome} (f : Fault) :
      Course t project script (.error f) [] (.error (.fault f))
  | noFolder {script : List RunOutcome} : Course t project script (.ok false) []
      (.error (.failure (.invalidProject project.text .notAFolder)))
  | stopped {script : List RunOutcome} {e : Error} : Asks t project script (.error e) →
      Course t project script (.ok true) [t.versionRun project] (.error e)
  | built {first : RunOutcome} {rest : List RunOutcome} {outcome : Except Error Unit} :
      Asks t project (first :: rest) (.ok ()) → Builds t project rest outcome →
      Course t project (first :: rest) (.ok true) [t.versionRun project, t.buildRun project]
        outcome

/-- A program takes one outcome of the script. It comes to its end, or it stops the work. -/
theorem run_run_taken (t : Toolchain) (arguments : List Text) (folder : FilePath) (s : Session) :
    ∃ outcome u, Session.run (t.run arguments folder) s = (outcome, u) ∧
      s.Ran u [t.toolRun arguments folder] ∧ u.toolRuns = s.toolRuns.drop 1 ∧
      ((∃ e, outcome = .error e ∧ Breaks t (t.toolRun arguments folder) s.toolRuns e) ∨
        ∃ finished rest, outcome = .ok finished ∧
          s.toolRuns = .finished finished.stdout finished.stderr finished.exitCode :: rest) := by
  have hran := ran_run t arguments folder s
  have hleft : (s.record [.ran (t.toolRun arguments folder)]).toolRuns = s.toolRuns := rfl
  simp only [Toolchain.run, Session.run_bind, Session.run_record, Session.run_get, hleft] at hran ⊢
  cases hruns : s.toolRuns with
  | nil =>
    simp only [hruns, Session.run_fault] at hran ⊢
    exact ⟨_, _, rfl, hran, hleft.trans hruns, Or.inl ⟨_, rfl, .exhausted⟩⟩
  | cons result rest =>
    cases result with
    | finished stdout stderr code =>
      simp only [hruns, Session.run_bind, Session.run_modify, finish, Session.run_pure] at hran ⊢
      exact ⟨_, _, rfl, hran, rfl, Or.inr ⟨⟨stdout, stderr, code⟩, rest, rfl, rfl⟩⟩
    | timedOut out err =>
      simp only [hruns, Session.run_bind, Session.run_modify, finish, Session.run_fail] at hran ⊢
      exact ⟨_, _, rfl, hran, rfl,
        Or.inl ⟨_, rfl, .interrupted (.timedOut (keeps_iff.2 rfl) (keeps_iff.2 rfl))⟩⟩
    | notStarted reason =>
      simp only [hruns, Session.run_bind, Session.run_modify, finish, Session.run_fail] at hran ⊢
      exact ⟨_, _, rfl, hran, rfl, Or.inl ⟨_, rfl, .interrupted (.notStarted reason)⟩⟩

/-- The question for the version takes one outcome of the script. -/
theorem run_ensureVersion_asks (t : Toolchain) (project : FilePath) (s : Session) :
    ∃ outcome u, Session.run (t.ensureVersion project) s = (outcome, u) ∧
      s.Ran u [t.versionRun project] ∧ u.toolRuns = s.toolRuns.drop 1 ∧
      Asks t project s.toolRuns outcome := by
  obtain ⟨first, w, hrun, hran, hleft, ⟨e, rfl, hbreaks⟩ | ⟨finished, rest, rfl, hruns⟩⟩ :=
    run_run_taken t ["--version"] project s
  · refine ⟨.error e, w, ?_, hran, hleft, .broken hbreaks⟩
    simp only [ensureVersion, installedVersion, Session.run_bind, hrun]
  · rw [hruns]
    by_cases hversion : installedVersion? finished.stdout = some t.release.scarb
    · refine ⟨.ok (), w, ?_, hran, hruns ▸ hleft, .matching hversion⟩
      simp [ensureVersion, installedVersion, Session.run_bind, hrun, hversion]
    · obtain ⟨note, hrefused⟩ : ∃ note, Session.run (t.ensureVersion project) s =
          (.error (.failure (.unsupportedToolchain
            ((installedVersion? finished.stdout).getD "unknown") t.release.cairo)),
            w.record [.logged note]) := by
        simp only [ensureVersion, installedVersion, Session.run_bind, hrun, Session.run_pure,
          bne_iff_ne, ne_eq, hversion, not_false_eq_true, if_true, Session.run_log,
          Session.run_fail]
        exact ⟨_, rfl⟩
      refine ⟨_, _, hrefused, hran.trans (Session.Ran.record w _), hruns ▸ hleft, ?_⟩
      cases hread : installedVersion? finished.stdout with
      | none => exact .unread hread
      | some version =>
        have hother : version ≠ t.release.scarb := by
          rintro rfl
          exact hversion hread
        exact .other hread hother

/-- The build itself takes one outcome of the script. -/
theorem run_build_builds (t : Toolchain) (project : FilePath) (s : Session) :
    ∃ outcome u, Session.run (t.build project) s = (outcome, u) ∧
      s.Ran u [t.buildRun project] ∧ u.toolRuns = s.toolRuns.drop 1 ∧
      Builds t project s.toolRuns outcome := by
  have hran := ran_build t project s
  obtain ⟨first, w, hrun, -, hleft, ⟨e, rfl, hbreaks⟩ | ⟨finished, rest, rfl, hruns⟩⟩ :=
    run_run_taken t (buildArguments project) project
      (s.record [.logged
        ⟨.info, logger, "compiler.build.start", [("project", .text project.text)]⟩])
  · have hbuild : Session.run (t.build project) s = (.error e, w) := by
      simp only [build, Session.run_bind, Session.run_log, hrun]
    rw [hbuild] at hran
    exact ⟨_, _, hbuild, hran, hleft, .broken hbreaks⟩
  have hscript : s.toolRuns =
      .finished finished.stdout finished.stderr finished.exitCode :: rest := hruns
  rw [hscript]
  by_cases hcode : finished.exitCode = 0
  · obtain ⟨note, hbuild⟩ : ∃ note, Session.run (t.build project) s =
        (.ok (), w.record [.logged note]) := by
      simp only [build, Session.run_bind, Session.run_log, hrun, hcode, bne_self_eq_false,
        Bool.false_eq_true, if_false]
      exact ⟨_, rfl⟩
    rw [hbuild] at hran
    exact ⟨_, _, hbuild, hran, hscript ▸ hleft, hcode ▸ .passed⟩
  · obtain ⟨note, hbuild⟩ : ∃ note, Session.run (t.build project) s =
        (.error (.failure (.build (.failed project.text finished.exitCode) finished.stdout
          finished.stderr (some finished.exitCode))), w.record [.logged note]) := by
      simp only [build, Session.run_bind, Session.run_log, hrun, bne_iff_ne, ne_eq, hcode,
        not_false_eq_true, if_true, Session.run_fail]
      exact ⟨_, rfl⟩
    rw [hbuild] at hran
    exact ⟨_, _, hbuild, hran, hscript ▸ hleft, .failed hcode⟩

/-- Every build takes one of the courses, and one outcome of the script for each program. -/
theorem run_compileProject_course (t : Toolchain) (project : FilePath) (s : Session) :
    ∃ outcome after runs, Session.run (t.compileProject project) s = (outcome, after) ∧
      s.Ran after runs ∧ after.toolRuns = s.toolRuns.drop runs.length ∧
      Course t project s.toolRuns (s.isFolder project) runs outcome := by
  have hidle : s.Ran s [] := ⟨[], by simp, rfl⟩
  cases hfolder : s.isFolder project with
  | error f =>
    refine ⟨.error (.fault f), s, [], ?_, hidle, rfl, .unknown f⟩
    simp only [compileProject, Session.run_bind, Session.run_get, Session.run_orFault, hfolder,
      Outcome.mapError_error]
  | ok found =>
    cases found with
    | false =>
      refine ⟨.error (.failure (.invalidProject project.text .notAFolder)), s, [], ?_, hidle, rfl,
        .noFolder⟩
      simp only [compileProject, Session.run_bind, Session.run_get, Session.run_orFault, hfolder,
        Outcome.mapError_ok, Bool.not_false, if_true, Session.run_fail]
    | true =>
      obtain ⟨first, w, hask, hasked, hleft, hasks⟩ := run_ensureVersion_asks t project s
      cases first with
      | error e =>
        refine ⟨.error e, w, _, ?_, hasked, hleft, .stopped hasks⟩
        simp [compileProject, Session.run_bind, hfolder, hask]
      | ok _ =>
        obtain ⟨outcome, u, hbuild, hran, hrest, hbuilds⟩ := run_build_builds t project w
        refine ⟨outcome, u, _, ?_, hasked.trans hran, ?_, ?_⟩
        · simp [compileProject, Session.run_bind, hfolder, hask, hbuild]
        · simpa [hleft] using hrest
        · cases hruns : s.toolRuns with
          | nil =>
            rw [hruns] at hasks
            cases hasks
          | cons result rest =>
            rw [hruns] at hasks hleft
            rw [hleft] at hbuilds
            exact .built hasks hbuilds

variable {script : List RunOutcome} {found : Except Fault Bool} {runs : List ToolRun}
  {outcome : Except Error Unit}

/-- The first program comes to its end and reports the version of the release. -/
def Reports (t : Toolchain) (script : List RunOutcome) : Prop :=
  ∃ stdout stderr code rest, script = .finished stdout stderr code :: rest ∧
    installedVersion? stdout = some t.release.scarb

/-- A program that stops the work has no exit code to tell. -/
theorem Breaks.exitless {run : ToolRun} {f : Failure} (h : Breaks t run script (.failure f)) :
    ∃ defect stdout stderr, f = .build defect stdout stderr none := by
  cases h with
  | interrupted hinterrupts => cases hinterrupts <;> exact ⟨_, _, _, rfl⟩

/-- A program that comes to its end does not stop the work. -/
theorem not_breaks_finished {run : ToolRun} {stdout stderr : Text} {code : Int}
    {rest : List RunOutcome} {e : Error} :
    ¬ Breaks t run (.finished stdout stderr code :: rest) e := by
  intro h
  cases h with
  | interrupted hinterrupts => cases hinterrupts

theorem asks_ok_iff : Asks t project script (.ok ()) ↔ Reports t script := by
  constructor
  · intro h
    cases h with
    | matching hversion => exact ⟨_, _, _, _, rfl, hversion⟩
  · rintro ⟨stdout, stderr, code, rest, rfl, hversion⟩
    exact .matching hversion

theorem builds_ok_iff : Builds t project script (.ok ()) ↔
    ∃ stdout stderr rest, script = .finished stdout stderr 0 :: rest := by
  constructor
  · intro h
    cases h with
    | passed => exact ⟨_, _, _, rfl⟩
  · rintro ⟨stdout, stderr, rest, rfl⟩
    exact .passed

/-- A question that ends in an error is answered with another version than that of the release. -/
theorem not_reports_of_asks {e : Error} (h : Asks t project script (.error e)) :
    ¬ Reports t script := by
  rintro ⟨stdout, stderr, code, rest, rfl, hversion⟩
  cases h with
  | broken hbreaks => exact not_breaks_finished hbreaks
  | other hread hother => exact hother (Option.some.inj (hread.symm.trans hversion))
  | unread hread => cases hread.symm.trans hversion

/-- A question has one outcome. -/
theorem Asks.unique {outcome other : Except Error Unit} (h : Asks t project script outcome)
    (ho : Asks t project script other) : outcome = other := by
  cases h with
  | broken hbreaks =>
    cases hbreaks with
    | interrupted hfirst =>
      cases ho with
      | broken hbreaks =>
        cases hbreaks with
        | interrupted hother => rw [hfirst.unique hother]
      | matching | other | unread => cases hfirst
    | exhausted =>
      cases ho with
      | broken hbreaks =>
        cases hbreaks
        rfl
  | matching hread | other hread | unread hread =>
    cases ho with
    | broken hbreaks => exact (not_breaks_finished hbreaks).elim
    | matching hread' | other hread' | unread hread' => simp_all

namespace Course

theorem order (h : Course t project script found runs outcome) :
    runs <+: [t.versionRun project, t.buildRun project] := by
  cases h with
  | unknown | noFolder => exact List.nil_prefix
  | stopped => exact List.prefix_append [t.versionRun project] [t.buildRun project]
  | built => exact List.prefix_refl _

/-- Every program is run in the project, and is given as long as the settings say. -/
theorem runs_there {run : ToolRun} (h : Course t project script found runs outcome)
    (hmem : run ∈ runs) :
    run.folder = project.text ∧ run.timeout = t.settings.compileTimeout := by
  have hrun : run = t.versionRun project ∨ run = t.buildRun project := by
    simpa using h.order.subset hmem
  rcases hrun with rfl | rfl <;> exact ⟨rfl, rfl⟩

theorem refuses (h : Course t project script found runs outcome) (hfound : found = .ok false) :
    outcome = .error (.failure (.invalidProject project.text .notAFolder)) := by
  subst hfound
  cases h with
  | noFolder => rfl

theorem version_mem_iff (h : Course t project script found runs outcome) :
    t.versionRun project ∈ runs ↔ found = .ok true := by
  cases h <;> simp

theorem build_mem_iff (h : Course t project script found runs outcome) :
    t.buildRun project ∈ runs ↔ found = .ok true ∧ Reports t script := by
  cases h with
  | unknown | noFolder => simp
  | stopped hasks =>
    have hne : t.buildRun project ≠ t.versionRun project := versionRun_ne_buildRun.symm
    simp [hne, not_reports_of_asks hasks]
  | built hasks => simp [asks_ok_iff.1 hasks]

theorem eq_ok_iff (h : Course t project script found runs outcome) :
    outcome = .ok () ↔ found = .ok true ∧ Reports t script ∧
      ∃ stdout stderr, script[1]? = some (.finished stdout stderr 0) := by
  cases h with
  | unknown | noFolder => simp
  | stopped hasks => simp [not_reports_of_asks hasks]
  | @built first rest _ hasks hbuilds =>
    have hreports := asks_ok_iff.1 hasks
    constructor
    · rintro rfl
      obtain ⟨stdout, stderr, others, rfl⟩ := builds_ok_iff.1 hbuilds
      exact ⟨rfl, hreports, stdout, stderr, rfl⟩
    · rintro ⟨-, -, stdout, stderr, hsecond⟩
      obtain ⟨others, rfl⟩ : ∃ others, rest = .finished stdout stderr 0 :: others := by
        cases rest with
        | nil => cases hsecond
        | cons result others => exact ⟨others, by cases hsecond; rfl⟩
      cases hbuilds with
      | broken hbreaks => exact (not_breaks_finished hbreaks).elim
      | passed => rfl
      | failed hcode => exact (hcode rfl).elim

/-- A program that is cut short or not started decides the outcome, and it is the last one. -/
theorem eq_of_interrupts {run : ToolRun} {result : RunOutcome} {f : Failure}
    (h : Course t project script found runs outcome) (hmem : (run, result) ∈ runs.zip script)
    (hinterrupts : Interrupts t run result f) : outcome = .error (.failure f) := by
  cases h with
  | unknown | noFolder => cases hmem
  | stopped hasks =>
    cases hasks with
    | broken hbreaks =>
      cases hbreaks with
      | interrupted hfirst =>
        cases List.mem_singleton.1 hmem
        rw [hfirst.unique hinterrupts]
      | exhausted => cases hmem
    | other | unread =>
      cases List.mem_singleton.1 hmem
      cases hinterrupts
  | built hasks hbuilds =>
    cases hasks with
    | matching =>
      rcases List.mem_cons.1 hmem with hfirst | hmem
      · cases hfirst
        cases hinterrupts
      cases hbuilds with
      | broken hbreaks =>
        cases hbreaks with
        | interrupted hsecond =>
          cases List.mem_singleton.1 hmem
          rw [hsecond.unique hinterrupts]
        | exhausted => cases hmem
      | passed | failed =>
        cases List.mem_singleton.1 hmem
        cases hinterrupts

/-- Without an exit code no build fails but for a program that is cut short or not started. -/
theorem exists_interrupts {defect : BuildDefect} {stdout stderr : Text}
    (h : Course t project script found runs outcome)
    (houtcome : outcome = .error (.failure (.build defect stdout stderr none))) :
    ∃ run result, (run, result) ∈ runs.zip script ∧
      Interrupts t run result (.build defect stdout stderr none) := by
  subst houtcome
  cases h with
  | stopped hasks =>
    cases hasks with
    | broken hbreaks =>
      cases hbreaks with
      | interrupted hfirst => exact ⟨_, _, List.mem_singleton_self _, hfirst⟩
  | built hasks hbuilds =>
    cases hasks with
    | matching =>
      cases hbuilds with
      | broken hbreaks =>
        cases hbreaks with
        | interrupted hsecond =>
          exact ⟨_, _, List.mem_cons_of_mem _ (List.mem_singleton_self _), hsecond⟩

/-- Another version than that of the release, or none, is what makes a toolchain unsupported. -/
theorem eq_unsupported_iff {version cairo : Text} (h : Course t project script found runs outcome) :
    outcome = .error (.failure (.unsupportedToolchain version cairo)) ↔
      found = .ok true ∧ cairo = t.release.cairo ∧
        ∃ stdout stderr code rest, script = .finished stdout stderr code :: rest ∧
          ((installedVersion? stdout = some version ∧ version ≠ t.release.scarb) ∨
            (installedVersion? stdout = none ∧ version = "unknown")) := by
  constructor
  · rintro rfl
    cases h with
    | stopped hasks =>
      cases hasks with
      | broken hbreaks =>
        obtain ⟨_, _, _, hbuild⟩ := hbreaks.exitless
        cases hbuild
      | other hread hother => exact ⟨rfl, rfl, _, _, _, _, rfl, Or.inl ⟨hread, hother⟩⟩
      | unread hread => exact ⟨rfl, rfl, _, _, _, _, rfl, Or.inr ⟨hread, rfl⟩⟩
    | built hasks hbuilds =>
      cases hbuilds with
      | broken hbreaks =>
        obtain ⟨_, _, _, hbuild⟩ := hbreaks.exitless
        cases hbuild
  · rintro ⟨rfl, rfl, stdout, stderr, code, rest, rfl, hversion⟩
    have hask : Asks t project (.finished stdout stderr code :: rest)
        (.error (.failure (.unsupportedToolchain version t.release.cairo))) := by
      rcases hversion with ⟨hread, hother⟩ | ⟨hread, rfl⟩
      · exact .other hread hother
      · exact .unread hread
    cases h with
    | stopped hasks => rw [hasks.unique hask]
    | built hasks hbuilds => cases hasks.unique hask

/-- Another exit code than zero of the build is told with what the build has printed. -/
theorem eq_failed_iff {defect : BuildDefect} {stdout stderr : Text} {code : Int}
    (h : Course t project script found runs outcome) :
    outcome = .error (.failure (.build defect stdout stderr (some code))) ↔
      code ≠ 0 ∧ defect = .failed project.text code ∧
        (t.buildRun project, .finished stdout stderr code) ∈ runs.zip script := by
  constructor
  · rintro rfl
    cases h with
    | stopped hasks =>
      cases hasks with
      | broken hbreaks =>
        obtain ⟨_, _, _, hbuild⟩ := hbreaks.exitless
        cases hbuild
    | built hasks hbuilds =>
      cases hasks with
      | matching =>
        cases hbuilds with
        | broken hbreaks =>
          obtain ⟨_, _, _, hbuild⟩ := hbreaks.exitless
          cases hbuild
        | failed hcode =>
          exact ⟨hcode, rfl, List.mem_cons_of_mem _ (List.mem_singleton_self _)⟩
  · rintro ⟨hcode, rfl, hmem⟩
    have hne : t.buildRun project ≠ t.versionRun project := versionRun_ne_buildRun.symm
    cases h with
    | unknown | noFolder => cases hmem
    | stopped hasks =>
      have hfirst := List.mem_singleton.1 (List.of_mem_zip hmem).1
      exact (hne hfirst).elim
    | built hasks hbuilds =>
      cases hasks with
      | matching =>
        rcases List.mem_cons.1 hmem with hfirst | hmem
        · exact (hne (Prod.mk.inj hfirst).1).elim
        cases hbuilds with
        | broken hbreaks =>
          cases hbreaks with
          | interrupted hsecond =>
            cases List.mem_singleton.1 hmem
            cases hsecond
          | exhausted => cases hmem
        | passed =>
          cases List.mem_singleton.1 hmem
          exact (hcode rfl).elim
        | failed =>
          cases List.mem_singleton.1 hmem
          rfl

/-- With a script for both programs, the build of a folder ends in no other way. -/
theorem declared (h : Course t project script found runs outcome) (hfolder : found = .ok true)
    (hlong : 2 ≤ script.length) :
    outcome = .ok () ∨
      (∃ defect stdout stderr code?,
        outcome = .error (.failure (.build defect stdout stderr code?))) ∨
      ∃ version cairo, outcome = .error (.failure (.unsupportedToolchain version cairo)) := by
  have hbreaks {run : ToolRun} {rest : List RunOutcome} {e : Error} (hbreaks : Breaks t run rest e)
      (hrest : rest ≠ []) : ∃ defect stdout stderr code?,
        e = .failure (.build defect stdout stderr code?) := by
    cases hbreaks with
    | interrupted hinterrupts => cases hinterrupts <;> exact ⟨_, _, _, _, rfl⟩
    | exhausted => exact (hrest rfl).elim
  cases h with
  | unknown | noFolder => cases hfolder
  | stopped hasks =>
    cases hasks with
    | broken hfirst =>
      have hscript : script ≠ [] := by
        rintro rfl
        cases hlong
      obtain ⟨defect, stdout, stderr, code?, rfl⟩ := hbreaks hfirst hscript
      exact Or.inr (Or.inl ⟨_, _, _, _, rfl⟩)
    | other | unread => exact Or.inr (Or.inr ⟨_, _, rfl⟩)
  | built hasks hbuilds =>
    cases hbuilds with
    | broken hsecond =>
      have hrest : _ ≠ [] := List.ne_nil_of_length_pos (Nat.le_of_succ_le_succ hlong)
      obtain ⟨defect, stdout, stderr, code?, rfl⟩ := hbreaks hsecond hrest
      exact Or.inr (Or.inl ⟨_, _, _, _, rfl⟩)
    | passed => exact Or.inl rfl
    | failed => exact Or.inr (Or.inl ⟨_, _, _, _, rfl⟩)

/-- A folder is not refused for being none. -/
theorem ne_notAFolder {path : Text} (h : Course t project script found runs outcome)
    (hfolder : found = .ok true) :
    outcome ≠ .error (.failure (.invalidProject path .notAFolder)) := by
  rintro rfl
  cases h with
  | noFolder => cases hfolder
  | stopped hasks =>
    cases hasks with
    | broken hbreaks =>
      obtain ⟨_, _, _, hbuild⟩ := hbreaks.exitless
      cases hbuild
  | built hasks hbuilds =>
    cases hbuilds with
    | broken hbreaks =>
      obtain ⟨_, _, _, hbuild⟩ := hbreaks.exitless
      cases hbuild

end Course

/-- The protocol of a build, by whether the project is a folder and by what its programs come to:
the question for the version, and the build. -/
structure KeepsProtocol (t : Toolchain) (project : FilePath) (version build : ToolRun)
    (found : Except Fault Bool) (script : List RunOutcome) (runs : List ToolRun)
    (outcome : Except Error Unit) : Prop where
  order : runs <+: [version, build]
  asks : version ∈ runs ↔ found = .ok true
  builds : build ∈ runs ↔ found = .ok true ∧ Reports t script
  runsThere : ∀ run ∈ runs, run.folder = project.text ∧ run.timeout = t.settings.compileTimeout
  refuses : found = .ok false →
    outcome = .error (.failure (.invalidProject project.text .notAFolder))
  returns : outcome = .ok () ↔ found = .ok true ∧ Reports t script ∧
    ∃ stdout stderr, script[1]? = some (.finished stdout stderr 0)
  interrupted : ∀ run result f, (run, result) ∈ runs.zip script → Interrupts t run result f →
    outcome = .error (.failure f)
  exitless : ∀ defect stdout stderr,
    outcome = .error (.failure (.build defect stdout stderr none)) →
      ∃ run result, (run, result) ∈ runs.zip script ∧
        Interrupts t run result (.build defect stdout stderr none)
  unsupported : ∀ version cairo,
    outcome = .error (.failure (.unsupportedToolchain version cairo)) ↔
      found = .ok true ∧ cairo = t.release.cairo ∧
        ∃ stdout stderr code rest, script = .finished stdout stderr code :: rest ∧
          ((installedVersion? stdout = some version ∧ version ≠ t.release.scarb) ∨
            (installedVersion? stdout = none ∧ version = "unknown"))
  failed : ∀ defect stdout stderr code,
    outcome = .error (.failure (.build defect stdout stderr (some code))) ↔
      code ≠ 0 ∧ defect = .failed project.text code ∧
        (build, .finished stdout stderr code) ∈ runs.zip script
  declared : found = .ok true → 2 ≤ script.length →
    outcome = .ok () ∨
      (∃ defect stdout stderr code?,
        outcome = .error (.failure (.build defect stdout stderr code?))) ∨
      ∃ version cairo, outcome = .error (.failure (.unsupportedToolchain version cairo))

/-- A build keeps to its protocol, whatever the project is and whatever its programs come to. The
outcomes of the script are taken in order, one for each program that is run. -/
theorem compileProject_keeps_protocol (t : Toolchain) (project : FilePath) (s : Session) :
    ∃ outcome after runs, Session.run (t.compileProject project) s = (outcome, after) ∧
      s.Ran after runs ∧ after.toolRuns = s.toolRuns.drop runs.length ∧
      t.KeepsProtocol project
        ⟨[t.settings.scarbBinary, "--version"], project.text, t.settings.compileTimeout⟩
        ⟨[t.settings.scarbBinary, "--manifest-path", (project.child "Scarb.toml").text, "build"],
          project.text, t.settings.compileTimeout⟩
        (s.isFolder project) s.toolRuns runs outcome := by
  obtain ⟨outcome, after, runs, hrun, hran, hleft, hcourse⟩ := run_compileProject_course t project s
  refine ⟨outcome, after, runs, hrun, hran, hleft, ?_⟩
  exact {
    order := hcourse.order
    asks := hcourse.version_mem_iff
    builds := hcourse.build_mem_iff
    runsThere := fun run hmem => hcourse.runs_there hmem
    refuses := hcourse.refuses
    returns := hcourse.eq_ok_iff
    interrupted := fun run result f => hcourse.eq_of_interrupts
    exitless := fun defect stdout stderr => hcourse.exists_interrupts
    unsupported := fun version cairo => hcourse.eq_unsupported_iff
    failed := fun defect stdout stderr code => hcourse.eq_failed_iff
    declared := hcourse.declared
  }

end ClassVerification.Toolchain
