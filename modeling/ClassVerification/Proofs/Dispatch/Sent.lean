import ClassVerification.Proofs.Verification.Stages

/-! Submitting a class, from the point on where its request can be built. -/
namespace ClassVerification

/-- The request that an action sends, if it sends one. -/
def Action.request? : Action → Option Request
  | .requested request => some request
  | _ => none

theorem Action.request?_eq_some_iff {a : Action} {request : Request} :
    a.request? = some request ↔ a = .requested request := by
  cases a <;> simp [request?]

theorem Action.filterMap_request?_of_isLogged {notes : List Action}
    (h : ∀ a ∈ notes, a.IsLogged) : notes.filterMap Action.request? = [] := by
  rw [List.filterMap_eq_nil_iff]
  intro a ha
  obtain ⟨e, rfl⟩ := h a ha
  rfl

namespace Session

variable {s t u : Session} {request other : Request} {new : List Action}

/-- A request that is sent between two sessions. -/
def Sends (s t : Session) (request : Request) : Prop :=
  ∃ new, t.actions = s.actions ++ new ∧ .requested request ∈ new

theorem sends_iff (hnew : t.actions = s.actions ++ new) :
    s.Sends t request ↔ request ∈ new.filterMap Action.request? := by
  simp only [List.mem_filterMap, Action.request?_eq_some_iff, exists_eq_right]
  constructor
  · rintro ⟨other, hother, hmem⟩
    rwa [List.append_cancel_left (hnew.symm.trans hother)]
  · intro hmem
    exact ⟨new, hnew, hmem⟩

theorem Quiet.not_sends (h : s.Quiet t) : ¬ s.Sends t request := by
  obtain ⟨notes, _, hnotes, rfl⟩ := h
  have hnone := Action.filterMap_request?_of_isLogged hnotes
  rw [sends_iff rfl, hnone]
  exact List.not_mem_nil

/-- Where one request is sent and otherwise nothing is done, it is the only one. -/
theorem Quiet.requests_of_sent (hbefore : s.Quiet u) (hafter : (u.sent request).Quiet t) :
    ∃ new, t.actions = s.actions ++ new ∧ new.filterMap Action.request? = [request] := by
  obtain ⟨first, _, hfirst, rfl⟩ := hbefore
  obtain ⟨second, _, hsecond, rfl⟩ := hafter
  refine ⟨first ++ .requested request :: second, by simp [sent], ?_⟩
  rw [List.filterMap_append, Action.filterMap_request?_of_isLogged hfirst, List.nil_append,
    List.filterMap_cons, Action.filterMap_request?_of_isLogged hsecond]
  rfl

theorem sends_sent_iff (hbefore : s.Quiet u) (hafter : (u.sent request).Quiet t) :
    s.Sends t other ↔ other = request := by
  obtain ⟨new, hnew, hrequests⟩ := hbefore.requests_of_sent hafter
  rw [sends_iff hnew, hrequests, List.mem_singleton]

end Session

/-- An answer that is no redirect is handed over as it came. -/
theorem Call.outcome_exchange {call : Call} {r : Response} (rest : List Reply)
    (habsolute : call.request.url.isAbsolute) (hstatus : r.status = 200 ∨ r.status = 404) :
    (call.exchange (.response r :: rest)).outcome = .ok r := by
  simp [exchange, receive, habsolute, r.checkRedirect_of_status call.request.url hstatus]

namespace Dispatch

variable {settings : Settings} {network address root : Text} {submission : Submission}
  {form : List Multipart.FormField} {client : Client} {call : Call}

/-- What the log is told when a form is about to be sent. -/
def submittingNote (network address : Text) (submission : Submission)
    (form : List Multipart.FormField) : Action :=
  .logged ⟨.info, logger, "dispatch.submitting",
    submitting network address submission (form.length - submission.metadataFields.length)⟩

/-- A form that is read is announced, and its request can be built or nothing else is done. -/
theorem exists_built_or_run_submit (hroot : Network.rootOf network .publicApi settings = .ok root)
    (s : Session) (hform : submission.formFields s = .ok form) :
    (∃ client call, Client.create root settings = .ok client ∧
        client.prepare .post .verifyClass address form = .ok call) ∨
      ∃ f, Session.run (submit settings network address submission) s =
        (.error (.fault f), s.record [submittingNote network address submission form]) := by
  cases hclient : Client.create root settings with
  | error f =>
    refine Or.inr ⟨f, ?_⟩
    simp [submit, Session.run_bind, hroot, hform, hclient, submittingNote]
  | ok client =>
    cases hcall : client.prepare .post .verifyClass address form with
    | error f =>
      refine Or.inr ⟨f, ?_⟩
      simp [submit, Session.run_bind, hroot, hform, hclient, Client.post, hcall, submittingNote]
    | ok call => exact Or.inl ⟨client, call, rfl, hcall⟩

section

variable (hroot : Network.rootOf network .publicApi settings = .ok root)
  (hclient : Client.create root settings = .ok client) (s : Session)
  (hform : submission.formFields s = .ok form)
  (hcall : client.prepare .post .verifyClass address form = .ok call)

include hroot hclient hform hcall

/-- A form whose request can be built is sent, and the decision on the answer is carried out. -/
theorem run_submit : Session.run (submit settings network address submission) s =
    let start := s.record [submittingNote network address submission form]
    let talk := call.exchange s.replies
    match talk.outcome with
    | .error e => (.error e, start.afterTalk talk)
    | .ok r =>
      let decision := decide network address call.request.url r
      (decision.2, (start.afterTalk talk).record decision.1) := by
  simp only [submit, Client.post_eq_send, Session.run_bind, Session.run_addressOf, hroot,
    Session.run_get, Session.run_ofExcept, hform, Session.run_log, Session.run_orFault, hclient,
    Outcome.mapError_ok, Client.run_send hcall, Session.replies_record, Session.run_record,
    submittingNote]
  cases (call.exchange s.replies).outcome with
  | error e => rfl
  | ok r => rfl

/-- After the announcement the request is sent, and then nothing is done to the outside. -/
theorem quiet_run_submit :
    ((s.record [submittingNote network address submission form]).sent call.request).Quiet
      (Session.run (submit settings network address submission) s).2 := by
  obtain ⟨notes, hnotes, hactions, hleft, -⟩ := call.exchange_cases s.replies
  have hafter : (s.record [submittingNote network address submission form]).afterTalk
      (call.exchange s.replies) = _ := Session.afterTalk_of_sent hactions hleft
  rw [run_submit hroot hclient s hform hcall]
  cases hout : (call.exchange s.replies).outcome with
  | error e =>
    simp only [hout, hafter]
    exact .record hnotes
  | ok r =>
    simp only [hout, hafter]
    exact Session.Quiet.trans (.record hnotes) (.record isLogged_of_decide)

theorem run_submit_sends :
    s.Sends (Session.run (submit settings network address submission) s).2 call.request := by
  have hlog : s.Quiet (s.record [submittingNote network address submission form]) := .log
  have hafter := quiet_run_submit hroot hclient s hform hcall
  exact (Session.sends_sent_iff hlog hafter).2 rfl

end

/-- A submission is accepted just if the answer takes it. -/
theorem decide_eq_ok_iff {url : Url} {r : Response} {jobId : Text} :
    (decide network address url r).2 = .ok jobId ↔ r.Accepts jobId := by
  refine ⟨accepts_of_decide, ?_⟩
  rintro ⟨hstatus, members, hjson, hid⟩
  have hreceipt := receiptOf_eq_ok_iff.2 ⟨members, rfl, hid⟩
  simp [decide, hstatus, accepted, Response.parse, hjson, hreceipt]

/-- A submission that is taken gives the id of its job. -/
theorem run_submit_of_accepts (hroot : Network.rootOf network .publicApi settings = .ok root)
    (hclient : Client.create root settings = .ok client) {s : Session} {r : Response}
    {rest : List Reply} {jobId : Text} (hform : submission.formFields s = .ok form)
    (hcall : client.prepare .post .verifyClass address form = .ok call)
    (habsolute : call.request.url.isAbsolute) (hreplies : s.replies = .response r :: rest)
    (haccepts : r.Accepts jobId) :
    ∃ t, Session.run (submit settings network address submission) s = (.ok jobId, t) := by
  have hdecision : (decide network address call.request.url r).2 = .ok jobId :=
    decide_eq_ok_iff.2 haccepts
  rw [run_submit hroot hclient s hform hcall, hreplies]
  simp only [Call.outcome_exchange rest habsolute (Or.inl haccepts.1), hdecision]
  exact ⟨_, rfl⟩

end Dispatch

end ClassVerification
