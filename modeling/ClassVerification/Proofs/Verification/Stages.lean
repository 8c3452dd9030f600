import ClassVerification.Proofs.Verification.Course

/-! What each stage of a verification does: it stops on its way, or makes all its moves. -/
namespace ClassVerification

open Session in
/-- Asking for a class does nothing to the outside or sends one request; whether the class is known
is read off the status of what came back. -/
theorem Dispatch.run_classExists_cases {settings : Settings} {network classHash : Text}
    {s t : Session} {outcome : Except Error Bool}
    (h : run (Dispatch.classExists settings network classHash) s = (outcome, t)) :
    (∃ e, outcome = .error e ∧ s.Quiet t) ∨
      ∃ (root : Text) (call : Call), Network.rootOf network .internalApi settings = .ok root ∧
        call.IsFor .get (Endpoint.getClass.address root classHash) ∧
        (s.sent call.request).Quiet t ∧
        (outcome = .ok true → ∃ r, s.replies.head? = some (.response r) ∧ r.status = 200) := by
  rcases run_bind_cases_of_eq (run_addressOf ..) h with ⟨e, rfl, rfl⟩ | ⟨root, hroot, h⟩
  · exact Or.inl ⟨e, rfl, .refl _⟩
  rcases run_orFault_bind_cases h with ⟨e, rfl, rfl⟩ | ⟨client, hclient, h⟩
  · exact Or.inl ⟨e, rfl, .refl _⟩
  rw [Client.get_eq_send] at h
  rcases Client.run_send_bind_cases hclient h with
      ⟨e, rfl, rfl⟩ | ⟨call, u, hfor, -, hquiet, ⟨e, rfl, rfl⟩ | ⟨r, hhead, h⟩⟩
  · exact Or.inl ⟨e, rfl, .refl _⟩
  · exact Or.inr ⟨root, call, hroot, hfor, hquiet, by simp⟩
  refine Or.inr ⟨root, call, hroot, hfor, ?_⟩
  dsimp only at h
  by_cases hs : r.status = 200
  · rw [if_pos hs, run_pure] at h
    obtain ⟨rfl, rfl⟩ := Prod.mk.inj h
    exact ⟨hquiet, fun _ => ⟨r, hhead, hs⟩⟩
  rw [if_neg hs] at h
  by_cases hn : r.status = 404
  · rw [if_pos hn, run_pure] at h
    obtain ⟨rfl, rfl⟩ := Prod.mk.inj h
    exact ⟨hquiet, by simp⟩
  · rw [if_neg hn, run_ofExcept] at h
    obtain ⟨rfl, rfl⟩ := Prod.mk.inj h
    exact ⟨hquiet, by simp⟩

namespace Verification

variable {v : Verification} {c : Compiler} {s : Session}

theorem run_compileStage_of_not_supports (h : c.supports v.submission.metadata.scarbVersion
      v.submission.metadata.cairoVersion = false) :
    Session.run (v.compileStage c) s = (.error (.failure (.unsupportedToolchain
      v.submission.metadata.scarbVersion v.submission.metadata.cairoVersion)), s) := by
  simp [compileStage, h, Session.run_bind]

/-- A build is announced, and then it is the compiler's. -/
theorem run_compileStage_of_supports (h : c.supports v.submission.metadata.scarbVersion
      v.submission.metadata.cairoVersion) :
    ∃ e, Session.run (v.compileStage c) s =
      Session.run (c.compileProject (v.projectFolder s)) (s.record [.logged e]) := by
  simp only [compileStage, h, Bool.not_true, Bool.false_eq_true, if_false, Session.run_bind,
    Session.run_get, Session.run_log]
  exact ⟨_, rfl⟩

end Verification

namespace Submission

/-- What is submitted is read from the files alone. -/
theorem formFields_congr (submission : Submission) {s t : Session} (hfiles : t.files = s.files)
    (hhere : t.here = s.here) : submission.formFields t = submission.formFields s := by
  have hfield (f : SourceFile) : readField t f = readField s f := by
    simp only [readField, Session.readText, hfiles, hhere]
  have hread (files : List SourceFile) : readFields t files = readFields s files := by
    induction files with
    | nil => rfl
    | cons f rest ih => rw [readFields, readFields, hfield, ih]
  rw [formFields, formFields, hread]

/-- A form holds the fields of the project at least. -/
theorem ne_nil_of_formFields {submission : Submission} {s : Session}
    {form : List Multipart.FormField} (h : submission.formFields s = .ok form) : form ≠ [] := by
  obtain ⟨fields, -, rfl⟩ := Outcome.map_eq_ok_iff.1 h
  simp [metadataFields]

end Submission

namespace Dispatch

variable {network classHash jobId : Text} {url : Url} {r : Response}

theorem isLogged_of_decide : ∀ a ∈ (decide network classHash url r).1, a.IsLogged := by
  simp only [decide, accepted, rejected]
  repeat' split
  all_goals simp [event, Action.IsLogged]

/-- Only an answer of 200 whose body tells a job id takes a submission. -/
theorem accepts_of_decide (h : (decide network classHash url r).2 = .ok jobId) :
    r.Accepts jobId := by
  simp only [decide] at h
  split at h
  · next hs =>
    simp only [accepted, Response.parse] at h
    cases hj : r.json? with
    | none => simp [hj] at h
    | some value =>
      cases hreceipt : receiptOf value with
      | error _ => simp [hj, hreceipt] at h
      | ok id =>
        simp only [hj, hreceipt, Except.ok.injEq] at h
        obtain ⟨members, rfl, hid⟩ := receiptOf_eq_ok_iff.1 hreceipt
        exact ⟨hs, members, hj, h ▸ hid⟩
  · simp only [rejected] at h
    repeat' split at h
    all_goals cases h

/-- A decision is carried out by telling the log and handing its outcome on. -/
theorem run_record_decision (decision : Decision) (s : Session) :
    Session.run (do
      SessionM.record decision.1
      SessionM.ofExcept decision.2) s = (decision.2, s.record decision.1) := by
  rw [Session.run_record_bind, Session.run_ofExcept]

theorem run_decision {decision : Decision} {s t : Session} {outcome : Except Error Text}
    (h : Session.run (do
      SessionM.record decision.1
      SessionM.ofExcept decision.2) s = (outcome, t)) :
    outcome = decision.2 ∧ t = s.record decision.1 := by
  rw [run_record_decision] at h
  obtain ⟨rfl, rfl⟩ := Prod.mk.inj h
  exact ⟨rfl, rfl⟩

/-- Submitting does nothing to the outside or sends one request, whose form holds all files; it
succeeds only if the answer to that request takes the submission. -/
theorem run_submit_cases {settings : Settings} {submission : Submission} {s t : Session}
    {outcome : Except Error Text}
    (h : Session.run (submit settings network classHash submission) s = (outcome, t)) :
    (∃ e, outcome = .error e ∧ s.Quiet t) ∨
      ∃ (root : Text) (call : Call) (u : Session) (form : List Multipart.FormField),
        Network.rootOf network .publicApi settings = .ok root ∧
        call.IsFor .post (Endpoint.verifyClass.address root classHash) ∧ s.Quiet u ∧
        submission.formFields u = .ok form ∧
        call.request.Carries form ∧ (u.sent call.request).Quiet t ∧
        ∀ jobId, outcome = .ok jobId →
          ∃ r, u.replies.head? = some (.response r) ∧ r.Accepts jobId := by
  rcases Session.run_bind_cases_of_eq (Session.run_addressOf ..) h with
      ⟨e, rfl, rfl⟩ | ⟨root, hroot, h⟩
  · exact Or.inl ⟨e, rfl, .refl _⟩
  rcases Session.run_bind_cases_of_eq (Session.run_get _) h with ⟨e, rfl, rfl⟩ | ⟨_, hget, h⟩
  · exact Or.inl ⟨e, rfl, .refl _⟩
  cases hget
  rcases Session.run_bind_cases_of_eq (Session.run_ofExcept ..) h with
      ⟨e, rfl, rfl⟩ | ⟨form, hform, h⟩
  · exact Or.inl ⟨e, rfl, .refl _⟩
  rw [SessionM.log, Session.run_record_bind] at h
  generalize hu : s.record _ = u at h
  have hlog : s.Quiet u := hu ▸ .log
  have hfiles : submission.formFields u = .ok form := by
    rw [← hu]
    exact (submission.formFields_congr (s := s) (t := s.record _) rfl rfl).trans hform
  have hne : form ≠ [] := Submission.ne_nil_of_formFields hform
  rcases Session.run_orFault_bind_cases h with ⟨e, rfl, rfl⟩ | ⟨client, hclient, h⟩
  · exact Or.inl ⟨e, rfl, hlog⟩
  rw [Client.post_eq_send] at h
  rcases Client.run_send_bind_cases hclient h with
      ⟨e, rfl, rfl⟩ | ⟨call, w, hfor, hcarries, hquiet, ⟨e, rfl, rfl⟩ | ⟨r, hhead, h⟩⟩
  · exact Or.inl ⟨e, rfl, hlog⟩
  · exact Or.inr ⟨root, call, u, form, hroot, hfor, hlog, hfiles, hcarries hne, hquiet, by simp⟩
  obtain ⟨rfl, rfl⟩ := run_decision h
  refine Or.inr ⟨root, call, u, form, hroot, hfor, hlog, hfiles, hcarries hne,
    hquiet.trans (.record isLogged_of_decide), fun jobId hok => ?_⟩
  exact ⟨r, hhead, accepts_of_decide hok⟩

end Dispatch

end ClassVerification
