import ClassVerification.Proofs.Dispatch.Sent
import ClassVerification.Proofs.Verification.Gating

/-! A verification whose ceiling is negative: the ceiling is looked at when the job is submitted. -/
namespace ClassVerification

namespace Verification

variable {v : Verification} {settings : Settings} {s t : Session}

/-- A verification up to the submission, with the id of the job. -/
def submitPart (v : Verification) (settings : Settings) : SessionM Text :=
  v.checkPart settings >>= fun _ => v.buildPart >>= fun _ =>
    Dispatch.submit settings v.network v.classHash v.submission

/-- All that a verification may do up to the submission. -/
def submitPlan (v : Verification) (settings : Settings) (s : Session) : List Move :=
  v.checkPlan settings ++ (v.buildPlan s ++ if v.isBuildable then
    [.submit (v.address settings .publicApi .verifyClass v.classHash)] else [])

/-- The outcome of a verification under a negative ceiling, from that of its submission: a job that
was taken is not followed. -/
def rejected (ceiling : Int) (submitted : Except Error Text) : Except Error JobRecord :=
  submitted.bind fun _ => .error (.fault (.negativeCeiling ceiling))

theorem run_jobPart_of_neg (hneg : Polling.ceiling settings v.ceiling < 0) (s : Session) :
    Session.run (v.jobPart settings) s =
      let (submitted, t) := Session.run
        (Dispatch.submit settings v.network v.classHash v.submission) s
      (rejected (Polling.ceiling settings v.ceiling) submitted, t) := by
  rw [jobPart, Session.run_bind]
  cases Session.run (Dispatch.submit settings v.network v.classHash v.submission) s with
  | mk submitted t =>
    cases submitted with
    | error e => rfl
    | ok jobId =>
      dsimp only
      rw [Session.run_bind, Polling.run_follow_of_neg hneg]
      rfl

/-- Under a negative ceiling all goes on as ever up to the submission, and nothing follows it. -/
theorem run_stages_of_neg (hneg : Polling.ceiling settings v.ceiling < 0) (s : Session) :
    Session.run (v.stages settings) s =
      let (submitted, t) := Session.run (v.submitPart settings) s
      (rejected (Polling.ceiling settings v.ceiling) submitted, t) := by
  rw [stages_eq, submitPart, Session.run_bind, Session.run_bind]
  cases Session.run (v.checkPart settings) s with
  | mk checked u =>
    cases checked with
    | error e => rfl
    | ok _ =>
      dsimp only
      rw [Session.run_bind, Session.run_bind]
      cases Session.run v.buildPart u with
      | mk built w =>
        cases built with
        | error e => rfl
        | ok _ => exact run_jobPart_of_neg hneg w

theorem submitPart_course {outcome : Except Error Text}
    (h : Session.run (v.submitPart settings) s = (outcome, t)) :
    ∃ deeds, ∀ jobId, Follows v jobId (v.submitPlan settings s) s deeds t ∧
      (outcome = .ok jobId →
        v.isBuildable ∧ Completes v jobId (v.submitPlan settings s) s deeds t) := by
  rcases front_course h with ⟨e, deeds, rfl, hcourse⟩ | ⟨u, first, hbuildable, hfirst, h⟩
  · refine ⟨deeds, fun jobId => ⟨?_, by simp⟩⟩
    rw [submitPlan, ← List.append_assoc]
    exact (hcourse jobId).stop
  rw [submitPlan, if_pos hbuildable, ← List.append_assoc]
  rcases submit_course h with ⟨e, rfl, hquiet⟩ | ⟨d, htrace, hmove, hled⟩
  · exact ⟨first, fun jobId => ⟨((hfirst jobId).follows.quiet hquiet).stop, by simp⟩⟩
  rw [← hmove]
  refine ⟨first ++ [d], fun jobId => ⟨(hfirst jobId).append (.single htrace), fun hok => ?_⟩⟩
  exact ⟨hbuildable, (hfirst jobId).trans (.single htrace (hled jobId hok))⟩

/-- The deeds of a submission that gave a job end with the request that was answered with it. -/
theorem exists_submit_of_completes {jobId : Text} {deeds : List Deed} (hbuildable : v.isBuildable)
    (h : Completes v jobId (v.submitPlan settings s) s deeds t) :
    ∃ front call r, deeds = front ++ [.submit call (some (.response r))] ∧ r.Accepts jobId := by
  have hplan := h.planned
  rw [submitPlan, if_pos hbuildable, ← List.append_assoc, List.map_eq_append_iff] at hplan
  obtain ⟨front, last, rfl, -, hlast⟩ := hplan
  obtain ⟨d, rfl, hmove⟩ := List.map_eq_singleton_iff.1 hlast
  have hled := h.led d (by simp)
  cases d with
  | submit call reply =>
    obtain ⟨r, rfl, haccepts⟩ := hled
    exact ⟨front, call, r, rfl, haccepts⟩
  | check _ _ | build _ _ | poll _ _ | wait _ => cases hmove

theorem run_run_of_neg (hneg : Polling.ceiling settings v.ceiling < 0)
    {submitted : Except Error Text}
    (h : Session.run (inScope v.scope scopeNames (v.submitPart settings)) s = (submitted, t)) :
    Session.run (v.run settings) s =
      (rejected (Polling.ceiling settings v.ceiling) submitted, t) := by
  cases hpart : Session.run (v.submitPart settings) (s.bind v.scope) with
  | mk first u =>
    rw [run_inScope, hpart] at h
    obtain ⟨rfl, rfl⟩ := Prod.mk.inj h
    rw [run, run_inScope, run_stages_of_neg hneg, hpart]

/-- Under a negative ceiling a verification does all that it does under any other, up to the
submission. It never polls and never returns a record. Where the submission gave a job, that job is
left behind, and the ceiling is the reason that is told. -/
theorem run_of_negative_ceiling (hneg : Polling.ceiling settings v.ceiling < 0) (s : Session) :
    ∃ submitted t deeds,
      Session.run (inScope v.scope scopeNames (v.submitPart settings)) s = (submitted, t) ∧
      Session.run (v.run settings) s =
        (rejected (Polling.ceiling settings v.ceiling) submitted, t) ∧
      Trace v s deeds t ∧ deeds.map Deed.move <+: v.submitPlan settings s ∧
      ∀ jobId, submitted = .ok jobId →
        ∃ front call r, deeds = front ++ [.submit call (some (.response r))] ∧
          r.Accepts jobId ∧ ∀ d ∈ front, d.LeadsOn jobId := by
  cases hrun : Session.run (v.submitPart settings) (s.bind v.scope) with
  | mk submitted u =>
    obtain ⟨deeds, hcourse⟩ := submitPart_course hrun
    have hbind : s.Quiet (s.bind v.scope) := .ofContext _
    have hunbind : u.Quiet (u.unbind scopeNames) := .ofContext _
    have hpart : Session.run (inScope v.scope scopeNames (v.submitPart settings)) s =
        (submitted, u.unbind scopeNames) := by rw [run_inScope, hrun]
    refine ⟨submitted, u.unbind scopeNames, deeds, hpart, run_run_of_neg hneg hpart, ?_,
      (hcourse []).1.planned, ?_⟩
    · exact Trace.append (.quiet hbind) ((hcourse []).1.quiet hunbind).trace
    · intro jobId hok
      obtain ⟨hbuildable, hcompleted⟩ := (hcourse jobId).2 hok
      obtain ⟨front, call, r, rfl, haccepts⟩ := exists_submit_of_completes hbuildable hcompleted
      exact ⟨front, call, r, rfl, haccepts, fun d hd => hcompleted.led d (by simp [hd])⟩

/-- A verification without check and compiler, and without files. -/
def sampleVerification (ceiling : Option Int) : Verification where
  network := "sepolia"
  classHash := "0x1"
  submission := ⟨"MIT", "Hello", ⟨"2.8.4", "2.8.4", ".", "lib.cairo"⟩, []⟩
  ceiling

def sampleSession : Session where
  replies := [.response acceptedAnswer]

/-- The sample is sent to the test network and taken. -/
theorem run_submitPart_sample (default : Int) (ceiling : Option Int) :
    ∃ t request, Session.run (inScope (sampleVerification ceiling).scope scopeNames
        ((sampleVerification ceiling).submitPart { defaultCeiling := default })) sampleSession =
          (.ok "abc", t) ∧
      sampleSession.Sends t request ∧ request.method = .post := by
  let v := sampleVerification ceiling
  let settings : Settings := { defaultCeiling := default }
  let start := sampleSession.bind v.scope
  have hroot : Network.rootOf "sepolia" .publicApi settings =
      .ok "https://sepolia-api.voyager.online/beta" := rfl
  have hform : v.submission.formFields start = .ok v.submission.metadataFields := rfl
  obtain ⟨client, call, hclient, hcall, habsolute⟩ : ∃ client call,
      Client.create "https://sepolia-api.voyager.online/beta" settings = .ok client ∧
        client.prepare .post .verifyClass "0x1" v.submission.metadataFields = .ok call ∧
        call.request.url.isAbsolute := ⟨_, _, rfl, rfl, rfl⟩
  have hpart : v.submitPart settings = Dispatch.submit settings "sepolia" "0x1" v.submission := by
    have hcheck : v.checkPart settings = pure () := rfl
    have hbuild : v.buildPart = pure () := rfl
    rw [submitPart, hcheck, hbuild, pure_bind, pure_bind]
    rfl
  have hreplies : start.replies = [.response acceptedAnswer] := rfl
  obtain ⟨u, hrun⟩ := Dispatch.run_submit_of_accepts hroot hclient hform hcall habsolute hreplies
    (accepts_acceptedAnswer_iff.2 rfl)
  have hsent := Dispatch.run_submit_sends hroot hclient start hform hcall
  rw [hrun] at hsent
  rw [← hpart] at hrun
  have hpost := (Client.prepare_eq_ok hclient hcall).1.method
  refine ⟨u.unbind scopeNames, call.request, ?_, hsent, hpost⟩
  rw [run_inScope]
  simp only [v, settings, start] at hrun
  rw [hrun]

/-- With a negative ceiling in the settings, the job of the sample is left behind. -/
theorem negative_default_leaves_job :
    let settings : Settings := { defaultCeiling := -1 }
    Polling.ceiling settings none < 0 ∧
      ∃ t front call r, Session.run ((sampleVerification none).run settings) sampleSession =
          (.error (.fault (.negativeCeiling (-1))), t) ∧
        Trace (sampleVerification none) sampleSession
          (front ++ [.submit call (some (.response r))]) t ∧ r.Accepts "abc" := by
  intro settings
  have hneg : Polling.ceiling settings (sampleVerification none).ceiling < 0 := by decide
  obtain ⟨u, request, hsample, -, -⟩ := run_submitPart_sample (-1) none
  obtain ⟨submitted, t, deeds, hpart, hrun, htrace, -, hjob⟩ :=
    run_of_negative_ceiling hneg sampleSession
  obtain ⟨rfl, rfl⟩ := Prod.mk.inj (hsample.symm.trans hpart)
  obtain ⟨front, call, r, rfl, haccepts, -⟩ := hjob "abc" rfl
  exact ⟨hneg, u, front, call, r, hrun, htrace, haccepts⟩

/-- A run that is rejected for its ceiling has sent its submission. -/
theorem rejected_ceiling_sends :
    ∃ t request, Session.run ((sampleVerification (some (-1))).run {}) sampleSession =
        (.error (.fault (.negativeCeiling (-1))), t) ∧
      sampleSession.Sends t request ∧ request.method = .post := by
  have hneg : Polling.ceiling {} (sampleVerification (some (-1))).ceiling < 0 := by decide
  obtain ⟨t, request, hsample, hsent, hpost⟩ := run_submitPart_sample 10 (some (-1))
  exact ⟨t, request, run_run_of_neg hneg hsample, hsent, hpost⟩

end Verification

end ClassVerification
