import ClassVerification.Proofs.Verification.Polls
import ClassVerification.Proofs.Verification.Stages

/-! The plan of a verification: its runs go along it, and no stage begins before all earlier ones
have succeeded. -/
namespace ClassVerification.Verification

variable {v : Verification} {settings : Settings} {s t : Session} {jobId : Text} {waits : Nat}

/-- Where a resource of the network is found, if the network has the interface. -/
def address (v : Verification) (settings : Settings) (i : Network.Interface) (e : Endpoint)
    (parameter : Text) : Option Text :=
  (Network.rootOf v.network i settings).toOption.map (e.address · parameter)

/-- Whether there is no compiler, or one that declares the versions of the project. -/
def isBuildable (v : Verification) : Bool :=
  v.compiler.all (·.supports v.submission.metadata.scarbVersion v.submission.metadata.cairoVersion)

def checkPlan (v : Verification) (settings : Settings) : List Move :=
  if v.checkClass then [.check (v.address settings .internalApi .getClass v.classHash)] else []

def buildPlan (v : Verification) (s : Session) : List Move :=
  if v.compiler.isSome && v.isBuildable then [.build (v.projectFolder s)] else []

def jobPlan (v : Verification) (settings : Settings) (jobId : Text) (waits : Nat) : List Move :=
  .submit (v.address settings .publicApi .verifyClass v.classHash) ::
    polls (v.address settings .publicApi .getJobStatus jobId) settings.pollingInterval waits

/-- All that a verification may do in a session, for a job and a number of waits. -/
def plan (v : Verification) (settings : Settings) (s : Session) (jobId : Text) (waits : Nat) :
    List Move :=
  v.checkPlan settings ++
    (v.buildPlan s ++ if v.isBuildable then v.jobPlan settings jobId waits else [])

theorem address_of_rootOf {i : Network.Interface} {root parameter : Text} {e : Endpoint}
    (h : Network.rootOf v.network i settings = .ok root) :
    v.address settings i e parameter = some (e.address root parameter) := by
  simp [address, h, Except.toOption]

/-- The check, if it is asked for. -/
def checkPart (v : Verification) (settings : Settings) : SessionM Unit :=
  if v.checkClass then v.checkStage settings else pure ()

/-- The build, if there is a compiler. -/
def buildPart (v : Verification) : SessionM Unit :=
  match v.compiler with
  | some c => v.compileStage c
  | none => pure ()

/-- The submission, and what follows it. -/
def jobPart (v : Verification) (settings : Settings) : SessionM JobRecord := do
  let jobId ← Dispatch.submit settings v.network v.classHash v.submission
  let record ← Polling.follow settings v.network jobId v.ceiling
  SessionM.log .info logger "verification.succeeded" [
    ("job_id", .text jobId),
    ("contract", record.name.elim .null .text)]
  return record

theorem stages_eq : v.stages settings =
    v.checkPart settings >>= fun _ => v.buildPart >>= fun _ => v.jobPart settings := by
  cases hcheck : v.checkClass <;> cases hcompiler : v.compiler <;>
    simp [stages, checkPart, buildPart, jobPart, hcheck, hcompiler]

theorem checkPart_course {outcome : Except Error Unit}
    (h : Session.run (v.checkPart settings) s = (outcome, t)) :
    ∃ deeds, t.here = s.here ∧ ∀ jobId, Follows v jobId (v.checkPlan settings) s deeds t ∧
      (outcome = .ok () → Completes v jobId (v.checkPlan settings) s deeds t) := by
  rw [checkPart] at h
  rw [checkPlan]
  cases hcheck : v.checkClass with
  | false =>
    rw [hcheck] at h
    obtain ⟨rfl, rfl⟩ := Prod.mk.inj h
    exact ⟨[], rfl, fun _ => ⟨.ofQuiet (.refl _), fun _ => .ofQuiet (.refl _)⟩⟩
  | true =>
    rw [hcheck, if_pos rfl] at h
    obtain ⟨known, hknown, hlast⟩ : ∃ known, Session.run
        (Dispatch.classExists settings v.network v.classHash) s = (known, t) ∧
          (outcome = .ok () → known = .ok true) := by
      rcases Session.run_bind_cases h with ⟨e, hknown, rfl⟩ | ⟨known, u, hknown, h⟩
      · exact ⟨_, hknown, by simp⟩
      · cases known with
        | true =>
          obtain ⟨rfl, rfl⟩ := Prod.mk.inj h
          exact ⟨_, hknown, fun _ => rfl⟩
        | false =>
          obtain ⟨rfl, rfl⟩ := Prod.mk.inj h
          exact ⟨_, hknown, by simp⟩
    rcases Dispatch.run_classExists_cases hknown with
        ⟨e, rfl, hquiet⟩ | ⟨root, call, hroot, hfor, hquiet, hreply⟩
    · exact ⟨[], hquiet.here, fun _ => ⟨.ofQuiet hquiet, fun hok => by simpa using hlast hok⟩⟩
    · refine ⟨[.check call s.replies.head?], hquiet.here, fun jobId => ?_⟩
      have htrace : Trace v s [.check call s.replies.head?] t :=
        .step (.refl s) (.check hfor.self) (.quiet hquiet)
      rw [if_pos rfl, address_of_rootOf hroot, ← hfor.written]
      exact ⟨.single htrace, fun hok => .single htrace (hreply (hlast hok))⟩

theorem buildPart_course {outcome : Except Error Unit}
    (h : Session.run v.buildPart s = (outcome, t)) :
    ∃ deeds, ∀ jobId, Follows v jobId (v.buildPlan s) s deeds t ∧
      (outcome = .ok () → v.isBuildable ∧ Completes v jobId (v.buildPlan s) s deeds t) := by
  cases hcompiler : v.compiler with
  | none =>
    rw [buildPart, hcompiler] at h
    obtain ⟨rfl, rfl⟩ := Prod.mk.inj h
    have hbuildable : v.isBuildable := by simp [isBuildable, hcompiler]
    have hplan : v.buildPlan s = [] := by simp [buildPlan, hcompiler]
    rw [hplan]
    exact ⟨[], fun _ => ⟨.ofQuiet (.refl _), fun _ => ⟨hbuildable, .ofQuiet (.refl _)⟩⟩⟩
  | some c =>
    rw [buildPart, hcompiler] at h
    dsimp only at h
    cases hsupports :
        c.supports v.submission.metadata.scarbVersion v.submission.metadata.cairoVersion with
    | false =>
      rw [run_compileStage_of_not_supports hsupports] at h
      obtain ⟨rfl, rfl⟩ := Prod.mk.inj h
      exact ⟨[], fun _ => ⟨.ofQuiet (.refl _), by simp⟩⟩
    | true =>
      have hbuildable : v.isBuildable := by simp [isBuildable, hcompiler, hsupports]
      have hplan : v.buildPlan s = [.build (v.projectFolder s)] := by
        simp [buildPlan, hcompiler, hbuildable]
      obtain ⟨e, hrun⟩ := run_compileStage_of_supports (v := v) (s := s) hsupports
      rw [hrun] at h
      have htrace : Trace v s [.build (v.projectFolder s) outcome] t :=
        .step .log (.build hcompiler h) (.quiet (.refl t))
      rw [hplan]
      exact ⟨_, fun _ => ⟨.single htrace, fun hok => ⟨hbuildable, .single htrace hok⟩⟩⟩

theorem submit_course {outcome : Except Error Text}
    (h : Session.run (Dispatch.submit settings v.network v.classHash v.submission) s =
      (outcome, t)) :
    (∃ e, outcome = .error e ∧ s.Quiet t) ∨ ∃ d, Trace v s [d] t ∧
      d.move = .submit (v.address settings .publicApi .verifyClass v.classHash) ∧
      ∀ jobId, outcome = .ok jobId → d.LeadsOn jobId := by
  rcases Dispatch.run_submit_cases h with
      hquiet | ⟨root, call, u, form, hroot, hfor, hu, hform, hcarries, ht, hreply⟩
  · exact Or.inl hquiet
  · refine Or.inr ⟨.submit call u.replies.head?, ?_, ?_, hreply⟩
    · exact .step hu (.submit hfor.self hform hcarries) (.quiet ht)
    · rw [address_of_rootOf hroot, ← hfor.written, Deed.move]

/-- From the submission on: the job that is followed is the one that the answer to it tells. -/
theorem jobPart_course {outcome : Except Error JobRecord}
    (h : Session.run (v.jobPart settings) s = (outcome, t)) :
    ∃ jobId waits deeds, Follows v jobId (v.jobPlan settings jobId waits) s deeds t ∧
      ∀ record, outcome = .ok record →
        deeds.map Deed.move = v.jobPlan settings jobId waits ∧ EndsWell record deeds := by
  rcases Session.run_bind_cases h with ⟨e, hsubmit, rfl⟩ | ⟨jobId, u, hsubmit, h⟩
  · rcases submit_course hsubmit with ⟨_, -, hquiet⟩ | ⟨d, htrace, hmove, -⟩
    · exact ⟨[], 0, [], .ofQuiet hquiet, by simp⟩
    · refine ⟨[], 0, [d], ?_, by simp⟩
      rw [jobPlan, ← hmove]
      exact (Follows.single htrace).stop
  rcases submit_course hsubmit with ⟨_, he, -⟩ | ⟨d, htrace, hmove, hled⟩
  · cases he
  have hsubmitted : Completes v jobId [d.move] s [d] u := .single htrace (hled jobId rfl)
  obtain ⟨w, hfollow, hquiet⟩ : ∃ w,
      Session.run (Polling.follow settings v.network jobId v.ceiling) u = (outcome, w) ∧
        w.Quiet t := by
    rcases Session.run_bind_cases h with ⟨e, hfollow, rfl⟩ | ⟨record, w, hfollow, h⟩
    · exact ⟨t, hfollow, .refl t⟩
    · rw [SessionM.log, Session.run_record_bind] at h
      obtain ⟨rfl, rfl⟩ := Prod.mk.inj h
      exact ⟨w, hfollow, .log⟩
  rcases run_follow_course v hfollow with
      ⟨e, rfl, hw⟩ | ⟨root, deeds, waits, hroot, hpolls, hmoves, hpolled, hok⟩
  · refine ⟨jobId, 0, [d], ?_, by simp⟩
    rw [jobPlan, ← hmove]
    exact hsubmitted.append (.ofQuiet (hw.trans hquiet))
  · have hplan : v.jobPlan settings jobId waits = [d.move] ++ deeds.map Deed.move := by
      rw [jobPlan, hmoves, ← hmove, address_of_rootOf hroot]
      rfl
    have hrest : Follows v jobId (deeds.map Deed.move) u deeds w :=
      ⟨hpolls, List.prefix_refl _, hpolled⟩
    refine ⟨jobId, waits, [d] ++ deeds, ?_, fun record h => ⟨?_, (hok record h).append [d]⟩⟩
    · rw [hplan]
      exact hsubmitted.append (hrest.quiet hquiet)
    · rw [hplan, List.map_append]
      rfl

theorem countP_polls (address : Option Text) (interval : Binary64) (count : Nat) :
    (polls address interval count).countP Move.isSubmit = 0 := by
  induction count with
  | zero => simp [polls, Move.isSubmit]
  | succ count ih => simp [polls, Move.isSubmit, ih]

theorem countP_checkPlan_append_buildPlan :
    (v.checkPlan settings ++ v.buildPlan s).countP Move.isSubmit = 0 := by
  have hcheck : (v.checkPlan settings).countP Move.isSubmit = 0 := by
    rw [checkPlan]
    split <;> simp [Move.isSubmit]
  have hbuild : (v.buildPlan s).countP Move.isSubmit = 0 := by
    rw [buildPlan]
    split <;> simp [Move.isSubmit]
  rw [List.countP_append, hcheck, hbuild]

/-- A plan submits at most once. -/
theorem countP_plan_le : (v.plan settings s jobId waits).countP Move.isSubmit ≤ 1 := by
  have hjob : (v.jobPlan settings jobId waits).countP Move.isSubmit = 1 := by
    rw [jobPlan, List.countP_cons_of_pos rfl, countP_polls]
  rw [plan, ← List.append_assoc, List.countP_append, countP_checkPlan_append_buildPlan]
  split
  · omega
  · simp

/-- Before the job, a verification stops on its way or makes all its moves, and hands over to what
comes next. -/
theorem front_course {α : Type} {work : SessionM α} {outcome : Except Error α}
    (h : Session.run (v.checkPart settings >>= fun _ => v.buildPart >>= fun _ => work) s =
      (outcome, t)) :
    (∃ e deeds, outcome = .error e ∧
        ∀ jobId, Follows v jobId (v.checkPlan settings ++ v.buildPlan s) s deeds t) ∨
      ∃ u deeds, v.isBuildable ∧
        (∀ jobId, Completes v jobId (v.checkPlan settings ++ v.buildPlan s) s deeds u) ∧
        Session.run work u = (outcome, t) := by
  rcases Session.run_bind_cases h with ⟨e, hcheck, rfl⟩ | ⟨_, u, hcheck, h⟩
  · obtain ⟨deeds, -, hcourse⟩ := checkPart_course hcheck
    exact Or.inl ⟨e, deeds, rfl, fun jobId => (hcourse jobId).1.stop⟩
  obtain ⟨first, hhere, hchecked⟩ := checkPart_course hcheck
  -- the folder of the project hangs on the working directory, which a check leaves as it is
  have hfolder : v.buildPlan u = v.buildPlan s := by
    simp only [buildPlan, projectFolder, Session.folder, hhere]
  rcases Session.run_bind_cases h with ⟨e, hbuild, rfl⟩ | ⟨_, w, hbuild, h⟩
  · obtain ⟨deeds, hcourse⟩ := buildPart_course hbuild
    rw [hfolder] at hcourse
    exact Or.inl ⟨e, first ++ deeds, rfl,
      fun jobId => ((hchecked jobId).2 rfl).append (hcourse jobId).1⟩
  · obtain ⟨second, hbuilt⟩ := buildPart_course hbuild
    rw [hfolder] at hbuilt
    exact Or.inr ⟨w, first ++ second, ((hbuilt []).2 rfl).1,
      fun jobId => ((hchecked jobId).2 rfl).trans ((hbuilt jobId).2 rfl).2, h⟩

/-- The stages of a verification go along the plan. -/
theorem stages_course {outcome : Except Error JobRecord}
    (h : Session.run (v.stages settings) s = (outcome, t)) :
    ∃ jobId waits deeds, Follows v jobId (v.plan settings s jobId waits) s deeds t ∧
      ∀ record, outcome = .ok record →
        deeds.map Deed.move = v.plan settings s jobId waits ∧ EndsWell record deeds := by
  rw [stages_eq] at h
  rcases front_course h with ⟨e, deeds, rfl, hcourse⟩ | ⟨u, first, hbuildable, hfirst, h⟩
  · refine ⟨[], 0, deeds, ?_, by simp⟩
    rw [plan, ← List.append_assoc]
    exact (hcourse []).stop
  obtain ⟨jobId, waits, deeds, hcourse, hok⟩ := jobPart_course h
  have hplan : v.plan settings s jobId waits =
      v.checkPlan settings ++ v.buildPlan s ++ v.jobPlan settings jobId waits := by
    rw [plan, if_pos hbuildable, List.append_assoc]
  refine ⟨jobId, waits, first ++ deeds, ?_, fun record h => ⟨?_, (hok record h).2.append first⟩⟩
  · rw [hplan]
    exact (hfirst jobId).append hcourse
  · rw [hplan, List.map_append, (hfirst jobId).planned, (hok record h).1]

theorem run_inScope {α : Type} {work : SessionM α} {fields : Members Json} {names : List Text}
    (s : Session) : Session.run (inScope fields names work) s =
      let (outcome, t) := Session.run work (s.bind fields)
      (outcome, t.unbind names) := rfl

/-- A verification goes along its plan: binding fields for a while does nothing to the outside. -/
theorem run_course {outcome : Except Error JobRecord}
    (h : Session.run (v.run settings) s = (outcome, t)) :
    ∃ jobId waits deeds, Follows v jobId (v.plan settings s jobId waits) s deeds t ∧
      ∀ record, outcome = .ok record →
        deeds.map Deed.move = v.plan settings s jobId waits ∧ EndsWell record deeds := by
  cases hstages : Session.run (v.stages settings) (s.bind v.scope) with
  | mk staged u =>
    rw [run, run_inScope, hstages] at h
    obtain ⟨rfl, rfl⟩ := Prod.mk.inj h
    obtain ⟨jobId, waits, deeds, hcourse, hok⟩ := stages_course hstages
    have hbind : s.Quiet (s.bind v.scope) := .ofContext _
    have hunbind : u.Quiet (u.unbind scopeNames) := .ofContext _
    have htrace : Trace v s deeds (u.unbind scopeNames) :=
      Trace.append (.quiet hbind) (hcourse.quiet hunbind).trace
    exact ⟨jobId, waits, deeds, ⟨htrace, hcourse.planned, hcourse.led⟩, hok⟩

/-- The gating of a verification, whatever its arguments, answers and compiler. Its deeds lead from
the session before it to the session after it, and they go along its plan: the check if it is asked
for, the build if there is a compiler that declares the versions, the submission, and polls with
waits between them. Every deed but the last let the next one begin, a submission by telling the job
that is polled. No run submits twice. A record is returned only at the end of the plan, and only
from a last poll that tells it with the status of success. -/
theorem run_gated (v : Verification) (settings : Settings) (s : Session) :
    ∃ outcome t deeds jobId waits, Session.run (v.run settings) s = (outcome, t) ∧
      Trace v s deeds t ∧
      deeds.map Deed.move <+: v.plan settings s jobId waits ∧
      (∀ d ∈ deeds.dropLast, d.LeadsOn jobId) ∧
      (deeds.map Deed.move).countP Move.isSubmit ≤ 1 ∧
      ∀ record, outcome = .ok record →
        deeds.map Deed.move = v.plan settings s jobId waits ∧
        ∃ front call r, deeds = front ++ [.poll call (some (.response r))] ∧ r.Tells record ∧
          record.status = 4 := by
  cases hrun : Session.run (v.run settings) s with
  | mk outcome t =>
    obtain ⟨jobId, waits, deeds, hcourse, hok⟩ := run_course hrun
    exact ⟨outcome, t, deeds, jobId, waits, rfl, hcourse.trace, hcourse.planned, hcourse.led,
      Nat.le_trans hcourse.planned.sublist.countP_le countP_plan_le, hok⟩

end ClassVerification.Verification
