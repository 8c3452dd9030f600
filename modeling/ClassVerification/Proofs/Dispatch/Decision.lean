import ClassVerification.Proofs.Dispatch.Sent

/-! What becomes of a submission whose request is sent: one request, and the outcome that its answer
calls for. -/
namespace ClassVerification

/-- A response that rejects a submission and tells the reason. -/
def Response.Rejects (r : Response) (reason : Text) : Prop :=
  r.status = 400 ∧ ∃ members : Members Json, r.json? = some (.object members) ∧
    members.get? "error" = some (.text reason)

/-- A response that is handed over: its request went to an absolute address, and if it sends the
client to another place, then that place can be worked out. -/
def Call.Delivers (call : Call) (r : Response) : Prop :=
  call.request.url.isAbsolute ∧ r.checkRedirect call.request.url = .ok ()

theorem Call.delivers_of_location? {call : Call} {r : Response}
    (habsolute : call.request.url.isAbsolute) (h : r.location? = none) : call.Delivers r :=
  ⟨habsolute, by simp [Response.checkRedirect, h]⟩

theorem Call.receive_of_delivers {call : Call} {r : Response} (h : call.Delivers r) :
    (call.receive (.response r)).2 = .ok r := by
  simp [receive, h.1, h.2]

namespace Dispatch

/-- The request of a submission can be built, and this is it: the network has a public address, the
files can be read, and key, address and form can be written. -/
def Sendable (settings : Settings) (network address : Text) (submission : Submission)
    (s : Session) (call : Call) : Prop :=
  ∃ root client form, Network.rootOf network .publicApi settings = .ok root ∧
    Client.create root settings = .ok client ∧ submission.formFields s = .ok form ∧
    client.prepare .post .verifyClass address form = .ok call

/-- The decision table of a submission: the outcomes that an answer brings it to. -/
inductive Decides (address : Text) (call : Call) : Reply → Except Error Text → Prop where
  | accepted {r : Response} {jobId : Text} : call.Delivers r → r.Accepts jobId →
      Decides address call (.response r) (.ok jobId)
  | malformed {r : Response} {t : Text} : call.Delivers r → r.status = 200 → r.json?.isSome →
      (∀ jobId, ¬ r.Accepts jobId) → r.text = .ok t →
      Decides address call (.response r) (.error (.failure
        (.malformedAnswer ("Unexpected dispatch response shape: " ++ t.take 200))))
  | notFound {r : Response} : call.Delivers r → r.status = 404 →
      Decides address call (.response r) (.error (.failure (.jobNotFound address)))
  | rejected {r : Response} {reason : Text} : call.Delivers r → r.Rejects reason →
      Decides address call (.response r) (.error (.failure (.badRequest reason)))
  | unreasoned {r : Response} {t : Text} : call.Delivers r → r.status = 400 → r.json?.isSome →
      (∀ reason, ¬ r.Rejects reason) → r.text = .ok t →
      Decides address call (.response r) (.error (.failure (.unexpectedResponse
        "Failed to dispatch verification job" 400 t)))
  | unparseable {r : Response} {t : Text} : call.Delivers r → r.status = 200 ∨ r.status = 400 →
      r.json? = none → r.text = .ok t →
      Decides address call (.response r) (.error (.failure
        (.malformedAnswer (Polling.unparseable call r t))))
  | unexpected {r : Response} {t : Text} : call.Delivers r → r.status ≠ 200 → r.status ≠ 404 →
      r.status ≠ 400 → r.text = .ok t →
      Decides address call (.response r) (.error (.failure (.unexpectedResponse
        "Failed to dispatch verification job" r.status t)))
  | unreadable {r : Response} {fault : Fault} : call.Delivers r → r.status ≠ 404 →
      (∀ jobId, ¬ r.Accepts jobId) → (∀ reason, ¬ r.Rejects reason) → r.text = .error fault →
      Decides address call (.response r) (.error (.fault fault))
  | broken (reason : Text) : Decides address call (.broken reason)
      (.error (.failure (.transport call.written reason)))
  | badLocation {r : Response} {reason : Text} : call.request.url.isAbsolute →
      r.checkRedirect call.request.url = .error (.location reason) →
      Decides address call (.response r) (.error (.failure (.transport call.written reason)))
  | badRedirect {r : Response} {fault : Fault} : call.request.url.isAbsolute →
      r.checkRedirect call.request.url = .error (.fault fault) →
      Decides address call (.response r) (.error (.fault fault))
  | refused (fault : Fault) : Decides address call (.refused fault) (.error (.fault fault))
  | relative {r : Response} : call.request.url.isAbsolute = false →
      Decides address call (.response r)
        (.error (.fault (.relativeUrl call.request.url.text)))

/-- What the client and the decision together make of a reply. -/
def conclusion (network address : Text) (call : Call) (reply : Reply) : Except Error Text :=
  match (call.receive reply).2 with
  | .error e => .error e
  | .ok r => (decide network address call.request.url r).2

variable {settings : Settings} {network address : Text} {submission : Submission}
  {call : Call} {s : Session} {reply : Reply} {r : Response} {o : Except Error Text}

theorem conclusion_of_delivers (h : call.Delivers r) :
    conclusion network address call (.response r) =
      (decide network address call.request.url r).2 := by
  rw [conclusion, Call.receive_of_delivers h]

theorem rejectionOf_eq_ok_iff {value : Json} {reason : Text} :
    rejectionOf value = .ok reason ↔ ∃ members : Members Json, value = .object members ∧
      members.get? "error" = some (.text reason) := textField_eq_ok_iff

section

variable (network address : Text) (url : Url)

theorem decide_of_malformed (hstatus : r.status = 200) (hjson : r.json?.isSome)
    (haccepts : ∀ jobId, ¬ r.Accepts jobId) :
    (decide network address url r).2 = .error (r.report fun t =>
      .malformedAnswer ("Unexpected dispatch response shape: " ++ t.take 200)) := by
  obtain ⟨value, hvalue⟩ := Option.isSome_iff_exists.1 hjson
  cases hreceipt : receiptOf value with
  | ok jobId =>
    obtain ⟨members, rfl, hid⟩ := receiptOf_eq_ok_iff.1 hreceipt
    exact (haccepts jobId ⟨hstatus, members, hvalue, hid⟩).elim
  | error _ =>
    simp only [decide, hstatus, if_true, accepted, Response.parse, hvalue, hreceipt]
    rfl

theorem decide_of_unreasoned (hstatus : r.status = 400) (hjson : r.json?.isSome)
    (hrejects : ∀ reason, ¬ r.Rejects reason) :
    (decide network address url r).2 = .error (r.report
      (.unexpectedResponse "Failed to dispatch verification job" 400)) := by
  obtain ⟨value, hvalue⟩ := Option.isSome_iff_exists.1 hjson
  cases hrejection : rejectionOf value with
  | ok reason =>
    obtain ⟨members, rfl, hreason⟩ := rejectionOf_eq_ok_iff.1 hrejection
    exact (hrejects reason ⟨hstatus, members, hvalue, hreason⟩).elim
  | error _ => simp [decide, hstatus, rejected, Response.parse, hvalue, hrejection, context]

theorem decide_of_unparseable (call : Call) (hstatus : r.status = 200 ∨ r.status = 400)
    (hjson : r.json? = none) :
    (decide network address call.request.url r).2 = .error (r.report fun t =>
      .malformedAnswer (Polling.unparseable call r t)) := by
  obtain hstatus | hstatus := hstatus
  · simp only [decide, hstatus, if_true, accepted, Response.parse, hjson, Polling.unparseable]
    rfl
  · simp [decide, hstatus, rejected, Response.parse, hjson, Polling.unparseable, Response.excerpt]

theorem decide_of_unexpected (hok : r.status ≠ 200) (hfound : r.status ≠ 404)
    (hbad : r.status ≠ 400) :
    (decide network address url r).2 = .error (r.report
      (.unexpectedResponse "Failed to dispatch verification job" r.status)) := by
  simp [decide, hok, hfound, hbad, context]

end

/-- An answer that neither takes nor rejects a submission, and does not deny it either, is reported
as it stands, and where it can be read its report is a row of the table. -/
theorem exists_report (network address : Text) (hd : call.Delivers r) (hfound : r.status ≠ 404)
    (haccepts : ∀ jobId, ¬ r.Accepts jobId) (hrejects : ∀ reason, ¬ r.Rejects reason) :
    ∃ failure, (decide network address call.request.url r).2 = .error (r.report failure) ∧
      ∀ t, r.text = .ok t →
        Decides address call (.response r) (.error (.failure (failure t))) := by
  by_cases hok : r.status = 200
  · cases hjson : r.json? with
    | none => exact ⟨_, decide_of_unparseable network address call (Or.inl hok) hjson,
        fun _ => .unparseable hd (Or.inl hok) hjson⟩
    | some value =>
      have hsome : r.json?.isSome := by simp [hjson]
      exact ⟨_, decide_of_malformed network address _ hok hsome haccepts,
        fun _ => .malformed hd hok hsome haccepts⟩
  by_cases hbad : r.status = 400
  · cases hjson : r.json? with
    | none => exact ⟨_, decide_of_unparseable network address call (Or.inr hbad) hjson,
        fun _ => .unparseable hd (Or.inr hbad) hjson⟩
    | some value =>
      have hsome : r.json?.isSome := by simp [hjson]
      exact ⟨_, decide_of_unreasoned network address _ hbad hsome hrejects,
        fun _ => .unreasoned hd hbad hsome hrejects⟩
  · exact ⟨_, decide_of_unexpected network address _ hok hfound hbad,
      fun _ => .unexpected hd hok hfound hbad⟩

/-- The table has a row for every answer that is handed over. -/
theorem exists_decides_of_delivers (hd : call.Delivers r) :
    ∃ o, Decides address call (.response r) o := by
  by_cases hfound : r.status = 404
  · exact ⟨_, .notFound hd hfound⟩
  by_cases haccepts : ∃ jobId, r.Accepts jobId
  · obtain ⟨jobId, haccepts⟩ := haccepts
    exact ⟨_, .accepted hd haccepts⟩
  by_cases hrejects : ∃ reason, r.Rejects reason
  · obtain ⟨reason, hrejects⟩ := hrejects
    exact ⟨_, .rejected hd hrejects⟩
  · have haccepts' := fun jobId h => haccepts ⟨jobId, h⟩
    have hrejects' := fun reason h => hrejects ⟨reason, h⟩
    cases htext : r.text with
    | error fault => exact ⟨_, .unreadable hd hfound haccepts' hrejects' htext⟩
    | ok t =>
      obtain ⟨failure, -, hrow⟩ := exists_report [] address hd hfound haccepts' hrejects'
      exact ⟨_, hrow t htext⟩

/-- The table has a row for every reply. -/
theorem exists_decides (address : Text) (call : Call) (reply : Reply) :
    ∃ o, Decides address call reply o := by
  cases reply with
  | broken reason => exact ⟨_, .broken reason⟩
  | refused fault => exact ⟨_, .refused fault⟩
  | response r =>
    cases habsolute : call.request.url.isAbsolute with
    | false => exact ⟨_, .relative habsolute⟩
    | true =>
      cases hredirect : r.checkRedirect call.request.url with
      | ok _ => exact exists_decides_of_delivers ⟨habsolute, hredirect⟩
      | error bad =>
        cases bad with
        | location reason => exact ⟨_, .badLocation habsolute hredirect⟩
        | fault fault => exact ⟨_, .badRedirect habsolute hredirect⟩

/-- What is made of a reply is what the table says of it. -/
theorem conclusion_of_decides (h : Decides address call reply o) :
    conclusion network address call reply = o := by
  cases h with
  | accepted hd haccepts => rw [conclusion_of_delivers hd, decide_eq_ok_iff.2 haccepts]
  | notFound hd hstatus => simp [conclusion_of_delivers hd, decide, hstatus]
  | rejected hd hrejects =>
    obtain ⟨hstatus, members, hjson, hreason⟩ := hrejects
    have hrejection := rejectionOf_eq_ok_iff.2 ⟨members, rfl, hreason⟩
    simp [conclusion_of_delivers hd, decide, hstatus, rejected, Response.parse, hjson, hrejection]
  | malformed hd hstatus hjson haccepts htext =>
    rw [conclusion_of_delivers hd, decide_of_malformed network address _ hstatus hjson haccepts,
      Response.report_of_text htext]
  | unreasoned hd hstatus hjson hrejects htext =>
    rw [conclusion_of_delivers hd, decide_of_unreasoned network address _ hstatus hjson hrejects,
      Response.report_of_text htext]
  | unparseable hd hstatus hjson htext =>
    rw [conclusion_of_delivers hd, decide_of_unparseable network address call hstatus hjson,
      Response.report_of_text htext]
  | unexpected hd hok hfound hbad htext =>
    rw [conclusion_of_delivers hd, decide_of_unexpected network address _ hok hfound hbad,
      Response.report_of_text htext]
  | unreadable hd hfound haccepts hrejects htext =>
    obtain ⟨failure, hreport, -⟩ := exists_report network address hd hfound haccepts hrejects
    rw [conclusion_of_delivers hd, hreport, Response.report_of_fault htext]
  | broken reason => rfl
  | badLocation habsolute hredirect =>
    simp [conclusion, Call.receive, habsolute, hredirect, Call.transportFailure]
  | badRedirect habsolute hredirect => simp [conclusion, Call.receive, habsolute, hredirect]
  | refused fault => rfl
  | relative habsolute => simp [conclusion, Call.receive, habsolute]

theorem conclusion_eq_iff : conclusion network address call reply = o ↔
    Decides address call reply o := by
  refine ⟨?_, conclusion_of_decides⟩
  rintro rfl
  obtain ⟨o, h⟩ := exists_decides address call reply
  rwa [conclusion_of_decides h]

theorem outcome_run_submit (hcall : Sendable settings network address submission s call)
    {rest : List Reply} (hreplies : s.replies = reply :: rest) :
    (Session.run (submit settings network address submission) s).1 =
      conclusion network address call reply := by
  obtain ⟨root, client, form, hroot, hclient, hform, hbuilt⟩ := hcall
  have hexchange : (call.exchange s.replies).outcome = (call.receive reply).2 := by
    rw [hreplies]
    rfl
  rw [run_submit hroot hclient s hform hbuilt, conclusion]
  simp only [hexchange]
  cases (call.receive reply).2 <;> rfl

/-- A submission without files. -/
def bareSubmission : Submission where
  license := "MIT"
  name := "Hello"
  metadata := ⟨"2.8.4", "2.8.4", ".", "src/lib.cairo"⟩
  files := []

/-- The session of an answer to the only request. -/
def answeredSession (r : Response) : Session := { replies := [.response r] }

theorem exists_sendable_bareSubmission (r : Response) :
    ∃ call, Sendable {} "sepolia" "0x1" bareSubmission (answeredSession r) call ∧
      call.request.url.isAbsolute :=
  ⟨_, ⟨_, _, _, rfl, rfl, rfl, rfl⟩, rfl⟩

/-- An answer that rejects a submission, with a member beside the reason. -/
def rejectingAnswer : Response where
  status := 400
  headers := []
  body := Utf8.bytesOf "\x7b\"code\":1,\"error\":\"unknown license\"\x7d"

theorem rejects_rejectingAnswer : rejectingAnswer.Rejects "unknown license" := by
  have hrejection : (rejectingAnswer.json?.bind fun value => (rejectionOf value).toOption) =
      some (Text.ofString "unknown license") := by decide +kernel
  obtain ⟨value, hjson, hvalue⟩ := Option.bind_eq_some_iff.1 hrejection
  obtain ⟨members, rfl, hreason⟩ :=
    rejectionOf_eq_ok_iff.1 (Outcome.toOption_eq_some_iff.1 hvalue)
  exact ⟨rfl, members, hjson, hreason⟩

/-- An answer that sends the client to another place. -/
def redirectingAnswer (location : Text) : Response where
  status := 302
  headers := [("location", location)]
  body := Utf8.bytesOf "moved"

end Dispatch

end ClassVerification
