import ClassVerification.Proofs.Dispatch.Sent
import ClassVerification.Proofs.Submission.Writable
import ClassVerification.Proofs.Toolchain.Build
import ClassVerification.Proofs.Verification.Gating

/-! The toolchain that a submission announces is the one that the project has been built with. -/
namespace ClassVerification

namespace Session

variable {s t u : Session} {request : Request}

/-- Nothing that has been done is taken back between two sessions. -/
def Extends (s t : Session) : Prop := ∃ new, t.actions = s.actions ++ new

theorem Extends.trans (h : s.Extends t) (h' : t.Extends u) : s.Extends u := by
  obtain ⟨first, hfirst⟩ := h
  obtain ⟨second, hsecond⟩ := h'
  exact ⟨first ++ second, by simp [hfirst, hsecond]⟩

theorem Extends.sends (h : s.Extends t) (h' : t.Sends u request) : s.Sends u request := by
  obtain ⟨first, hfirst⟩ := h
  obtain ⟨second, hsecond, hmem⟩ := h'
  exact ⟨first ++ second, by simp [hfirst, hsecond], List.mem_append_right _ hmem⟩

theorem Offline.extends (h : s.Offline t) : s.Extends t := by
  obtain ⟨new, hnew, -⟩ := h
  exact ⟨new, hnew⟩

theorem Offline.not_sends (h : s.Offline t) : ¬ s.Sends t request := by
  obtain ⟨new, hnew, hno⟩ := h
  rintro ⟨other, hother, hmem⟩
  obtain rfl := List.append_cancel_left (hnew.symm.trans hother)
  exact hno request hmem

theorem Quiet.offline (h : s.Quiet t) : s.Offline t := by
  obtain ⟨notes, _, hnotes, rfl⟩ := h
  exact ⟨notes, rfl, Action.no_request_of_isLogged hnotes⟩

theorem offline_waited (s : Session) (seconds : Binary64) : s.Offline (s.waited seconds) :=
  ⟨[.slept seconds], rfl, by simp⟩

theorem Quiet.ran (h : s.Quiet t) : s.Ran t [] := by
  obtain ⟨notes, _, hnotes, rfl⟩ := h
  refine ⟨notes, rfl, List.filterMap_eq_nil_iff.2 fun a ha => ?_⟩
  obtain ⟨e, rfl⟩ := hnotes a ha
  rfl

theorem Quiet.toolRuns (h : s.Quiet t) : t.toolRuns = s.toolRuns := by
  obtain ⟨_, _, _, rfl⟩ := h
  rfl

theorem sends_sent_self_iff {other : Request} : s.Sends (s.sent request) other ↔ other = request :=
  sends_sent_iff (.refl s) (.refl _)

/-- What is sent in two parts is sent in one of them. -/
theorem Sends.cases (hfirst : s.Extends t) (hsecond : t.Extends u) (h : s.Sends u request) :
    s.Sends t request ∨ t.Sends u request := by
  obtain ⟨first, hfirst⟩ := hfirst
  obtain ⟨second, hsecond⟩ := hsecond
  obtain ⟨new, hnew, hmem⟩ := h
  obtain rfl : new = first ++ second := by
    rw [hsecond, hfirst, List.append_assoc] at hnew
    exact (List.append_cancel_left hnew).symm
  rcases List.mem_append.1 hmem with hmem | hmem
  · exact Or.inl ⟨first, hfirst, hmem⟩
  · exact Or.inr ⟨second, hsecond, hmem⟩

end Session

namespace Verification

variable {v : Verification} {settings : Settings} {toolchain : Toolchain} {s t : Session} {d : Deed}
  {deeds front back : List Deed} {request : Request} {jobId : Text} {waits : Nat}

/-- What a deed does to the record: a build of a toolchain sends nothing, every other request than
that of a submission asks for something. -/
theorem Step.sends_cases (hcompiler : v.compiler = some toolchain.compiler) (h : Step v s d t) :
    s.Extends t ∧ ∀ request, s.Sends t request → request.method = .post →
      ∃ call reply, d = .submit call reply ∧ call.request = request := by
  cases h with
  | check hfor | poll hfor =>
    refine ⟨⟨_, rfl⟩, fun request hsent hpost => ?_⟩
    obtain rfl := Session.sends_sent_self_iff.1 hsent
    rw [hfor.method] at hpost
    cases hpost
  | submit =>
    refine ⟨⟨_, rfl⟩, fun request hsent _ => ?_⟩
    exact ⟨_, _, rfl, (Session.sends_sent_self_iff.1 hsent).symm⟩
  | @wait seconds =>
    have hoffline := s.offline_waited seconds
    exact ⟨hoffline.extends, fun request hsent => (hoffline.not_sends hsent).elim⟩
  | @build _ c project _ hsome hrun =>
    obtain rfl := Option.some.inj (hcompiler.symm.trans hsome)
    have hoffline : s.Offline (Session.run (toolchain.compiler.compileProject project) s).2 :=
      toolchain.isOffline_compileProject project s
    rw [hrun] at hoffline
    exact ⟨hoffline.extends, fun request hsent => (hoffline.not_sends hsent).elim⟩

theorem Trace.extends (hcompiler : v.compiler = some toolchain.compiler) (h : Trace v s deeds t) :
    s.Extends t := by
  induction h with
  | quiet hquiet => exact hquiet.offline.extends
  | step hquiet hstep _ ih =>
    exact (hquiet.offline.extends.trans (hstep.sends_cases hcompiler).1).trans ih

/-- A request that submits something is sent by a submission among the deeds. -/
theorem Trace.exists_submit (hcompiler : v.compiler = some toolchain.compiler)
    (h : Trace v s deeds t) (hsent : s.Sends t request) (hpost : request.method = .post) :
    ∃ front call reply back u w, deeds = front ++ .submit call reply :: back ∧
      Trace v s front u ∧ Step v u (.submit call reply) w ∧ w.Extends t ∧
      call.request = request := by
  induction h with
  | quiet hquiet => exact (hquiet.not_sends hsent).elim
  | @step s u w t d deeds hquiet hstep htrace ih =>
    obtain ⟨hextends, hsubmit⟩ := hstep.sends_cases hcompiler
    rcases hsent.cases hquiet.offline.extends (hextends.trans (htrace.extends hcompiler)) with
        hsent | hsent
    · exact (hquiet.not_sends hsent).elim
    rcases hsent.cases hextends (htrace.extends hcompiler) with hsent | hsent
    · obtain ⟨call, reply, rfl, hrequest⟩ := hsubmit request hsent hpost
      exact ⟨[], call, reply, deeds, u, w, rfl, .quiet hquiet, hstep, htrace.extends hcompiler,
        hrequest⟩
    · obtain ⟨front, call, reply, back, x, y, rfl, hfront, hpart⟩ := ih hsent
      exact ⟨d :: front, call, reply, back, x, y, rfl, .step hquiet hstep hfront, hpart⟩

/-- Deeds in two parts lead through a session between them. -/
theorem Trace.append_cases (h : Trace v s (front ++ back) t) :
    ∃ u, Trace v s front u ∧ Trace v u back t := by
  induction front generalizing s with
  | nil => exact ⟨s, .quiet (.refl s), h⟩
  | cons d front ih =>
    cases h with
    | step hquiet hstep htrace =>
      obtain ⟨u, hfront, hback⟩ := ih htrace
      exact ⟨u, .step hquiet hstep hfront, hback⟩

/-- Only a build starts programs. -/
theorem Step.runs_nothing (h : Step v s d t) (hd : ∀ project, d.move ≠ .build project) :
    s.Ran t [] ∧ t.toolRuns = s.toolRuns := by
  cases h with
  | check | poll | submit | wait => exact ⟨⟨_, rfl, rfl⟩, rfl⟩
  | build => exact (hd _ rfl).elim

theorem Trace.runs_nothing (h : Trace v s deeds t)
    (hdeeds : ∀ d ∈ deeds, ∀ project, d.move ≠ .build project) :
    s.Ran t [] ∧ t.toolRuns = s.toolRuns := by
  induction h with
  | quiet hquiet => exact ⟨hquiet.ran, hquiet.toolRuns⟩
  | step hquiet hstep _ ih =>
    obtain ⟨hd, hdeeds⟩ := List.forall_mem_cons.1 hdeeds
    obtain ⟨hran, hruns⟩ := hstep.runs_nothing hd
    obtain ⟨hrest, hleft⟩ := ih hdeeds
    exact ⟨(hquiet.ran.trans hran).trans hrest, hleft.trans (hruns.trans hquiet.toolRuns)⟩

/-- Before a submission a verification has made all moves that come before it in its plan. -/
theorem front_of_planned {call : Call} {reply : Option Reply}
    (h : (front ++ .submit call reply :: back).map Deed.move <+: v.plan settings s jobId waits) :
    v.isBuildable ∧ front.map Deed.move = v.checkPlan settings ++ v.buildPlan s := by
  have hfront : ∀ m ∈ v.checkPlan settings ++ v.buildPlan s, m.isSubmit = false := by
    simpa using List.countP_eq_zero.1 (countP_checkPlan_append_buildPlan (v := v) (s := s))
  have hpolls : ∀ m ∈ polls (v.address settings .publicApi .getJobStatus jobId)
      settings.pollingInterval waits, m.isSubmit = false := by
    simpa using List.countP_eq_zero.1 (countP_polls _ _ waits)
  obtain ⟨rest, hrest⟩ := h
  rw [plan, ← List.append_assoc, List.map_append, List.append_assoc] at hrest
  rcases List.append_eq_append_iff.1 hrest with ⟨inner, hplan, hjob⟩ | ⟨inner, hmoves, hjob⟩
  · cases inner with
    | nil =>
      rw [List.append_nil] at hplan
      cases hbuildable : v.isBuildable with
      | true => exact ⟨rfl, hplan.symm⟩
      | false => simp [hbuildable] at hjob
    | cons m inner =>
      obtain ⟨rfl, -⟩ := List.cons.inj hjob
      have hsubmit := hfront _ (hplan ▸ List.mem_append_right _ List.mem_cons_self)
      cases hsubmit
  · cases hbuildable : v.isBuildable with
    | false => simp [hbuildable] at hjob
    | true =>
      rw [hbuildable, if_pos rfl, jobPlan] at hjob
      cases inner with
      | nil => exact ⟨rfl, by simpa using hmoves⟩
      | cons m inner =>
        -- a second submission would have to be among the polls
        obtain ⟨-, hinner⟩ := List.cons.inj hjob
        have hsubmit := hpolls (Deed.submit call reply).move (by simp [hinner])
        cases hsubmit

/-- A build that leads on has run both programs of the toolchain to their end. -/
theorem Trace.built {project : FilePath} {outcome : Except Error Unit}
    (hcompiler : v.compiler = some toolchain.compiler)
    (h : Trace v s [.build project outcome] t) (hled : (Deed.build project outcome).LeadsOn jobId) :
    s.Ran t [toolchain.versionRun project, toolchain.buildRun project] ∧
      ∃ stdout stderr code out err rest,
        s.toolRuns = .finished stdout stderr code :: .finished out err 0 :: rest ∧
        Toolchain.installedVersion? stdout = some toolchain.release.scarb := by
  obtain rfl : outcome = .ok () := hled
  cases h with
  | step hquiet hstep hrest =>
    cases hrest with
    | quiet hquiet' =>
      cases hstep with
      | build hsome hrun =>
        obtain rfl := Option.some.inj (hcompiler.symm.trans hsome)
        obtain ⟨hran, hscript⟩ := Toolchain.run_compileProject_ok hrun
        rw [hquiet.toolRuns] at hscript
        refine ⟨?_, hscript⟩
        simpa using (hquiet.ran.trans hran).trans hquiet'.ran

end Verification

/-- A form begins with its versions and gives them once: no file can be named like a field of the
project. -/
theorem Submission.exists_versions {submission : Submission} {s : Session}
    {form : List Multipart.FormField} (h : submission.formFields s = .ok form) :
    ∃ others, form = [
        (Text.ofString "compiler_version", submission.metadata.cairoVersion),
        (Text.ofString "scarb_version", submission.metadata.scarbVersion)] ++ others ∧
      ∀ field ∈ others, field.1 ≠ Text.ofString "compiler_version" ∧
        field.1 ≠ Text.ofString "scarb_version" := by
  obtain ⟨fields, hfields, rfl⟩ := Outcome.map_eq_ok_iff.1 h
  have hproject : ∀ field ∈ submission.metadataFields.drop 2,
      field.1 ≠ Text.ofString "compiler_version" ∧ field.1 ≠ Text.ofString "scarb_version" := by
    simp only [metadataFields, List.drop_succ_cons, List.drop_zero, List.forall_mem_cons]
    exact ⟨by decide, by decide, by decide, by decide, fun _ => List.not_mem_nil.elim⟩
  refine ⟨submission.metadataFields.drop 2 ++ fields, rfl, fun field hfield => ?_⟩
  rcases List.mem_append.1 hfield with hfield | hfield
  · exact hproject field hfield
  obtain ⟨file, -, hread⟩ := exists_file_of_mem (readFields_eq_ok_iff.1 hfields) hfield
  have hname : field.1.head? = some (.char 'f') := by
    rw [(readField_eq_ok_iff.1 hread).1]
    rfl
  constructor
  all_goals
    intro heq
    rw [heq] at hname
    exact absurd hname (by decide)

/-- A toolchain that is created for two versions is of the release of both. -/
theorem Toolchain.release_of_create {scarb cairo : Text} {given : Option Settings}
    {before after : Session} {toolchain : Toolchain}
    (h : Session.run (create (.text scarb) (.text cairo) given) before = (.ok toolchain, after)) :
    toolchain.release.scarb = scarb ∧ toolchain.release.cairo = cairo := by
  cases hrelease : Release.ofVersions? scarb cairo with
  | none => simp [create, Release.ofJson, hrelease] at h
  | some release =>
    have hfound : release.scarb = scarb ∧ release.cairo = cairo := by
      simpa [Release.ofVersions?] using List.find?_some hrelease
    simp only [create, Release.ofJson, hrelease] at h
    rcases Session.run_bind_cases h with ⟨e, -, he⟩ | ⟨settings, u, -, h⟩
    · cases he
    · obtain ⟨heq, -⟩ := Prod.mk.inj h
      obtain rfl := Except.ok.inj heq
      exact hfound

namespace Verification

/-- A verification that declares the versions of its submission, with a compiler of one release,
declares those of the release. -/
theorem versions_of_isBuildable {v : Verification} {toolchain : Toolchain}
    (hcompiler : v.compiler = some toolchain.compiler) (h : v.isBuildable) :
    v.submission.metadata.scarbVersion = toolchain.release.scarb ∧
      v.submission.metadata.cairoVersion = toolchain.release.cairo := by
  simpa [isBuildable, hcompiler, Compiler.supports, Toolchain.compiler] using h

variable {v : Verification} {settings : Settings} {toolchain : Toolchain} {s t : Session}
  {outcome : Except Error JobRecord} {request : Request}

/-- What has been built is what is announced. Where a verification with a compiler for two versions
sends a submission, the submission names these two. Two programs have been run before it, in the
folder of the project: the question for the version, whose answer told the first of the two, and the
build, which ended with the exit code of success. -/
theorem posted_toolchain_is_built {scarb cairo : Text} {given : Option Settings}
    {before after : Session}
    (hcreate : Session.run (Toolchain.create (.text scarb) (.text cairo) given) before =
      (.ok toolchain, after))
    (hcompiler : v.compiler = some toolchain.compiler)
    (hrun : Session.run (v.run settings) s = (outcome, t)) (hsent : s.Sends t request)
    (hpost : request.method = .post) :
    ∃ others project past future stdout stderr code out err rest,
      request.Carries ([(Text.ofString "compiler_version", cairo),
        (Text.ofString "scarb_version", scarb)] ++ others) ∧
      (∀ field ∈ others, field.1 ≠ Text.ofString "compiler_version" ∧
        field.1 ≠ Text.ofString "scarb_version") ∧
      t.actions = s.actions ++ past ++ .requested request :: future ∧
      project = (v.root.getD s.folder).join (.ofText v.submission.metadata.folder) ∧
      past.filterMap Action.toolRun? = [
        ⟨[toolchain.settings.scarbBinary, "--version"], project.text,
          toolchain.settings.compileTimeout⟩,
        ⟨[toolchain.settings.scarbBinary, "--manifest-path", (project.child "Scarb.toml").text,
          "build"], project.text, toolchain.settings.compileTimeout⟩] ∧
      s.toolRuns = .finished stdout stderr code :: .finished out err 0 :: rest ∧
      Toolchain.installedVersion? stdout = some scarb := by
  obtain ⟨hscarb, hcairo⟩ := Toolchain.release_of_create hcreate
  obtain ⟨jobId, waits, deeds, hcourse, -⟩ := run_course hrun
  obtain ⟨front, call, reply, back, u, w, rfl, hfront, hstep, ⟨future, hfuture⟩, rfl⟩ :=
    hcourse.trace.exists_submit hcompiler hsent hpost
  obtain ⟨hbuildable, hmoves⟩ := front_of_planned hcourse.planned
  have hplan : v.buildPlan s = [.build (v.projectFolder s)] := by
    simp [buildPlan, hcompiler, hbuildable]
  -- the deeds before the submission: checks, which run nothing, and one build that leads on
  rw [hplan, List.map_eq_append_iff] at hmoves
  obtain ⟨checks, builds, rfl, hchecks, hbuilds⟩ := hmoves
  obtain ⟨d, rfl, hd⟩ := List.map_eq_singleton_iff.1 hbuilds
  cases d with
  | check _ _ | submit _ _ | poll _ _ | wait _ => cases hd
  | build project built =>
    obtain rfl := Move.build.inj hd
    obtain ⟨x, hchecked, hbuilt⟩ := hfront.append_cases
    have hled : (Deed.build (v.projectFolder s) built).LeadsOn jobId :=
      hcourse.led _ (by simp)
    have hnone : ∀ d ∈ checks, ∀ project, d.move ≠ .build project := by
      intro d hmem project hmove
      have hplanned : d.move ∈ v.checkPlan settings := hchecks ▸ List.mem_map_of_mem hmem
      rw [checkPlan, hmove] at hplanned
      split at hplanned <;> simp at hplanned
    obtain ⟨hnothing, hruns⟩ := hchecked.runs_nothing hnone
    obtain ⟨hran, stdout, stderr, code, out, err, rest, hscript, hversion⟩ :=
      hbuilt.built hcompiler hled
    obtain ⟨past, hpast, hpastRuns⟩ := hnothing.trans hran
    cases hstep with
    | submit _ hform hcarries =>
      obtain ⟨others, rfl, hothers⟩ := Submission.exists_versions hform
      obtain ⟨hsubmitted, hannounced⟩ := versions_of_isBuildable hcompiler hbuildable
      rw [hsubmitted, hannounced, hscarb, hcairo] at hcarries
      refine ⟨others, _, past, future, stdout, stderr, code, out, err, rest, hcarries, hothers, ?_,
        rfl, hpastRuns, hruns.symm.trans hscript, hscarb ▸ hversion⟩
      rw [hfuture, Session.sent, hpast]
      simp

/-- A verification of a project with a compiler of its versions. -/
def builtVerification : Verification where
  network := "sepolia"
  classHash := "0x1"
  submission := ⟨"MIT", "Hello", ⟨"2.8.4", "2.8.4", "proj", "lib.cairo"⟩, []⟩
  compiler := some Toolchain.sampleToolchain.compiler

/-- The project can be built, and the connection breaks when it is submitted. -/
def builtSession : Session :=
  { Toolchain.sampleSession with replies := [.broken "reset"] }

theorem run_buildPart_builtVerification :
    ∃ u, Session.run builtVerification.buildPart (builtSession.bind builtVerification.scope) =
      (.ok (), u) ∧ u.replies = [.broken "reset"] ∧ builtSession.Extends u := by
  let start := builtSession.bind builtVerification.scope
  have hproject : builtVerification.projectFolder start = .ofText "/work/proj" := by decide
  obtain ⟨e, hcompile⟩ := run_compileStage_of_supports (v := builtVerification) (s := start)
    (c := Toolchain.sampleToolchain.compiler) rfl
  rw [hproject] at hcompile
  have hfolder : (start.record [.logged e]).isFolder (.ofText "/work/proj") = .ok true :=
    Toolchain.isFolder_sampleSession
  obtain ⟨u, hbuilt, hreplies⟩ :=
    Toolchain.run_compileProject_finished (t := Toolchain.sampleToolchain) hfolder rfl rfl
  have hlog : builtSession.Quiet (start.record [.logged e]) :=
    Session.Quiet.trans (.ofContext _) .log
  have hoffline := Toolchain.sampleToolchain.isOffline_compileProject (.ofText "/work/proj")
    (start.record [.logged e])
  rw [hbuilt] at hoffline
  exact ⟨u, hcompile.trans hbuilt, hreplies, hlog.offline.extends.trans hoffline.extends⟩

/-- The sample is built and sent. -/
theorem exists_built_run :
    ∃ outcome t request, Session.run (builtVerification.run {}) builtSession = (outcome, t) ∧
      builtSession.Sends t request ∧ request.method = .post := by
  obtain ⟨u, hbuild, hreplies, hextends⟩ := run_buildPart_builtVerification
  have hroot : Network.rootOf builtVerification.network .publicApi {} =
      .ok "https://sepolia-api.voyager.online/beta" := rfl
  have hform : builtVerification.submission.formFields u =
      .ok builtVerification.submission.metadataFields := rfl
  obtain ⟨client, call, hclient, hcall⟩ : ∃ client call,
      Client.create "https://sepolia-api.voyager.online/beta" {} = .ok client ∧
        client.prepare .post .verifyClass builtVerification.classHash
          builtVerification.submission.metadataFields = .ok call := ⟨_, _, rfl, rfl⟩
  have hsent := Dispatch.run_submit_sends hroot hclient u hform hcall
  obtain ⟨e, w, hbroken⟩ : ∃ e w, Session.run (Dispatch.submit {} builtVerification.network
      builtVerification.classHash builtVerification.submission) u = (.error e, w) := by
    rw [Dispatch.run_submit hroot hclient u hform hcall, hreplies]
    exact ⟨_, _, rfl⟩
  rw [hbroken] at hsent
  have hstages : Session.run (builtVerification.stages {})
      (builtSession.bind builtVerification.scope) = (.error e, w) := by
    have hcheck : builtVerification.checkPart {} = pure () := rfl
    rw [stages_eq, hcheck, pure_bind, Session.run_bind, hbuild]
    dsimp only
    rw [jobPart, Session.run_bind, hbroken]
  have hrun : Session.run (builtVerification.run {}) builtSession =
      (.error e, w.unbind scopeNames) := by
    rw [run, run_inScope, hstages]
  have hpost : call.request.method = .post := (Client.prepare_eq_ok hclient hcall).1.method
  exact ⟨_, _, call.request, hrun, hextends.sends hsent, hpost⟩

/-- The sample announces the versions that it has been built with. -/
theorem built_sample_announces_its_versions :
    ∃ outcome t request others past future,
      Session.run (builtVerification.run {}) builtSession = (outcome, t) ∧
      request.Carries ([(Text.ofString "compiler_version", Text.ofString "2.8.4"),
        (Text.ofString "scarb_version", Text.ofString "2.8.4")] ++ others) ∧
      t.actions = builtSession.actions ++ past ++ .requested request :: future ∧
      past.filterMap Action.toolRun? = [
        ⟨["scarb", "--version"], "/work/proj", 600⟩,
        ⟨["scarb", "--manifest-path", "/work/proj/Scarb.toml", "build"], "/work/proj", 600⟩] := by
  have hcreate : Session.run (Toolchain.create (.text "2.8.4") (.text "2.8.4") (some {})) {} =
      (.ok Toolchain.sampleToolchain, {}) := rfl
  obtain ⟨outcome, t, request, hrun, hsent, hpost⟩ := exists_built_run
  obtain ⟨others, project, past, future, _, _, _, _, _, _, hcarries, -, hactions, hproject, hruns,
    -, -⟩ := posted_toolchain_is_built hcreate rfl hrun hsent hpost
  obtain rfl : project = .ofText "/work/proj" := hproject.trans (by decide)
  exact ⟨outcome, t, request, others, past, future, hrun, hcarries, hactions, hruns⟩

end Verification

end ClassVerification
