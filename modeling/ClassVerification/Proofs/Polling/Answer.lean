import ClassVerification.Polling
import ClassVerification.Proofs.JobRecord.Spelling

/-! What one answer to a poll means, said by its status and its body alone, and that a poll takes
it so. -/
namespace ClassVerification

namespace JobRecord

theorem jobStatus_of_status {r : JobRecord} {status : JobStatus} (h : r.status = status.code) :
    r.jobStatus = .ok status := by
  simp [jobStatus, JobStatus.ofCode, h]

/-- The codes of the five statuses are the numbers from zero to four. -/
theorem exists_code_or_out_of_range (n : Int) :
    (∃ status : JobStatus, n = status.code) ∨ n < 0 ∨ 4 < n := by
  obtain h | h | h | h | h | h | h :
      n = 0 ∨ n = 1 ∨ n = 2 ∨ n = 3 ∨ n = 4 ∨ n < 0 ∨ 4 < n := by omega
  · exact Or.inl ⟨.submitted, h⟩
  · exact Or.inl ⟨.compiled, h⟩
  · exact Or.inl ⟨.compileFailed, h⟩
  · exact Or.inl ⟨.failed, h⟩
  · exact Or.inl ⟨.succeeded, h⟩
  · exact Or.inr (Or.inl h)
  · exact Or.inr (Or.inr h)

theorem jobStatus_of_out_of_range {r : JobRecord} (h : r.status < 0 ∨ 4 < r.status) :
    r.jobStatus = .error (.unknownJobStatus (.int r.status)) := by
  cases hs : JobStatus.ofCode? r.status with
  | none => simp [jobStatus, JobStatus.ofCode, hs]
  | some status =>
    have hcode := JobStatus.code_eq_of_ofCode? hs
    cases status <;> simp only [JobStatus.code] at hcode <;> omega

end JobRecord

namespace Response

/-- A response of status 200 tells the record that its body spells. -/
def Tells (r : Response) (record : JobRecord) : Prop :=
  r.status = 200 ∧ ∃ members, r.json? = some (.object members) ∧ record.Spelled members

/-- The record that a response tells, if it tells one. -/
def record? (r : Response) : Option JobRecord :=
  if r.status = 200 then r.json?.bind fun value => (JobRecord.ofJson value).toOption else none

/-- Whether a response tells of a job that is submitted or compiled. -/
def isPending (r : Response) : Bool :=
  r.record?.any fun record => record.status = 0 || record.status = 1

theorem tells_iff {r : Response} {record : JobRecord} :
    r.Tells record ↔ r.record? = some record := by
  by_cases hs : r.status = 200
  · cases hj : r.json? with
    | none => simp [Tells, record?, hs, hj]
    | some value =>
      simp [Tells, record?, hs, hj, Outcome.toOption_eq_some_iff, JobRecord.ofJson_eq_ok_iff]
  · simp [Tells, record?, hs]

theorem Tells.unique {r : Response} {record other : JobRecord} (h : r.Tells record)
    (ho : r.Tells other) : record = other :=
  Option.some.inj ((tells_iff.1 h).symm.trans (tells_iff.1 ho))

theorem isPending_iff {r : Response} :
    r.isPending ↔ ∃ record, r.Tells record ∧ (record.status = 0 ∨ record.status = 1) := by
  simp only [tells_iff, isPending]
  cases r.record? <;> simp

theorem report_of_text {r : Response} {t : Text} (h : r.text = .ok t) (failure : Text → Failure) :
    r.report failure = .failure (failure t) := by
  simp [report, h]

theorem report_of_fault {r : Response} {fault : Fault} (h : r.text = .error fault)
    (failure : Text → Failure) : r.report failure = .fault fault := by
  simp [report, h]

/-- No redirect is looked at where the job or its absence is told. -/
theorem checkRedirect_of_status {r : Response} (url : Url) (h : r.status = 200 ∨ r.status = 404) :
    r.checkRedirect url = .ok () := by
  have hnone : r.location? = none := by
    obtain h | h := h <;> simp [location?, h]
  simp [checkRedirect, hnone]

end Response

/-- An answer of status 500 in UTF-16, without the mark that tells the order of its bytes. -/
def unmarkedAnswer : Response where
  status := 500
  headers := [("content-type", "text/plain; charset=utf16")]
  body := Utf8.bytesOf "error"

namespace Polling

/-- What is told of a body that is no JSON, by what it says. -/
def unparseable (call : Call) (r : Response) (t : Text) : Text :=
  "Unparseable response body from " ++ call.request.url.text ++ " (status " ++
    Text.ofInt r.status ++ "): " ++ t.take 200

/-- The decision table of a poll: the outcomes that an answer brings the matter to. An answer that
tells of a pending job brings it to none. -/
inductive Concludes (jobId : Text) (call : Call) : Reply → Except Error JobRecord → Prop where
  | succeeded {r : Response} {record : JobRecord} : r.Tells record → record.status = 4 →
      Concludes jobId call (.response r) (.ok record)
  | compileFailed {r : Response} {record : JobRecord} : r.Tells record → record.status = 2 →
      Concludes jobId call (.response r)
        (.error (.failure (.compilationFailed jobId (Poll.description record))))
  | jobFailed {r : Response} {record : JobRecord} : r.Tells record → record.status = 3 →
      Concludes jobId call (.response r)
        (.error (.failure (.jobFailed jobId (Poll.description record) Failure.failedToVerify)))
  | unknownStatus {r : Response} {record : JobRecord} : r.Tells record →
      record.status < 0 ∨ 4 < record.status →
      Concludes jobId call (.response r)
        (.error (.failure (.unknownJobStatus (.int record.status))))
  | malformed {r : Response} {t : Text} : r.status = 200 → r.json?.isSome →
      (∀ record, ¬ r.Tells record) → r.text = .ok t →
      Concludes jobId call (.response r)
        (.error (.failure (.malformedAnswer ("Malformed job record: " ++ t.take 200))))
  | unparseable {r : Response} {t : Text} : r.status = 200 → r.json? = none → r.text = .ok t →
      Concludes jobId call (.response r)
        (.error (.failure (.malformedAnswer (unparseable call r t))))
  | notFound {r : Response} : r.status = 404 →
      Concludes jobId call (.response r) (.error (.failure (.jobNotFound jobId)))
  | unexpected {r : Response} {t : Text} : r.status ≠ 200 → r.status ≠ 404 →
      r.checkRedirect call.request.url = .ok () → r.text = .ok t →
      Concludes jobId call (.response r)
        (.error (.failure
          (.unexpectedResponse "Unexpected response while polling job" r.status t)))
  | unreadable {r : Response} {fault : Fault} : r.status ≠ 404 → (∀ record, ¬ r.Tells record) →
      r.checkRedirect call.request.url = .ok () → r.text = .error fault →
      Concludes jobId call (.response r) (.error (.fault fault))
  | badLocation {r : Response} {reason : Text} :
      r.checkRedirect call.request.url = .error (.location reason) →
      Concludes jobId call (.response r) (.error (call.transportFailure reason))
  | badRedirect {r : Response} {fault : Fault} :
      r.checkRedirect call.request.url = .error (.fault fault) →
      Concludes jobId call (.response r) (.error (.fault fault))
  | broken (reason : Text) : Concludes jobId call (.broken reason)
      (.error (call.transportFailure reason))
  | refused (fault : Fault) : Concludes jobId call (.refused fault) (.error (.fault fault))
  | relative {r : Response} : call.request.url.isAbsolute = false →
      Concludes jobId call (.response r)
        (.error (.fault (.relativeUrl call.request.url.text)))

section

variable {jobId : Text} {call : Call} {r : Response} {outcome other : Except Error JobRecord}

/-- An answer that is reported as it stands concludes as its report says. -/
theorem concludes_report {failure : Text → Failure} (hfound : r.status ≠ 404)
    (hnot : ∀ record, ¬ r.Tells record) (hredirect : r.checkRedirect call.request.url = .ok ())
    (h : ∀ t, r.text = .ok t →
      Concludes jobId call (.response r) (.error (.failure (failure t)))) :
    Concludes jobId call (.response r) (.error (r.report failure)) := by
  cases htext : r.text with
  | ok t =>
    rw [Response.report_of_text htext]
    exact h t htext
  | error fault =>
    rw [Response.report_of_fault htext]
    exact .unreadable hfound hnot hredirect htext

/-- A pending job concludes nothing. -/
theorem not_concludes_of_isPending (habsolute : call.request.url.isAbsolute) (h : r.isPending) :
    ¬ Concludes jobId call (.response r) outcome := by
  obtain ⟨record, ht, hp⟩ := Response.isPending_iff.1 h
  have hredirect : r.checkRedirect call.request.url = .ok () :=
    Response.checkRedirect_of_status _ (Or.inl ht.1)
  intro hc
  cases hc with
  | succeeded ho hs | compileFailed ho hs | jobFailed ho hs | unknownStatus ho hs =>
    cases ht.unique ho
    omega
  | malformed _ _ hn | unreadable _ hn => exact hn record ht
  | unparseable _ hj =>
    obtain ⟨_, members, hm, _⟩ := ht
    simp [hj] at hm
  | notFound hs => simp [ht.1] at hs
  | unexpected hs => exact hs ht.1
  | badLocation hl | badRedirect hl => simp [hredirect] at hl
  | relative hrel => simp [habsolute] at hrel

/-- The table gives one outcome: its rows exclude each other. -/
theorem Concludes.unique {reply : Reply} (habsolute : call.request.url.isAbsolute)
    (h : Concludes jobId call reply outcome) (ho : Concludes jobId call reply other) :
    outcome = other := by
  cases h with
  | broken | refused =>
    cases ho
    rfl
  | succeeded ht hs | compileFailed ht hs | jobFailed ht hs | unknownStatus ht hs =>
    have hredirect := Response.checkRedirect_of_status call.request.url (Or.inl ht.1)
    cases ho with
    | succeeded ho _ | compileFailed ho _ | jobFailed ho _ | unknownStatus ho _ =>
      cases ht.unique ho
      first | rfl | omega
    | malformed _ _ hn | unreadable _ hn => exact (hn _ ht).elim
    | unparseable _ hj =>
      obtain ⟨_, members, hm, _⟩ := ht
      simp [hj] at hm
    | notFound hn => simp [ht.1] at hn
    | unexpected hn => exact (hn ht.1).elim
    | badLocation hl | badRedirect hl => simp [hredirect] at hl
    | relative hrel => simp [habsolute] at hrel
  | malformed hs | unparseable hs =>
    have hredirect := Response.checkRedirect_of_status call.request.url (Or.inl hs)
    cases ho <;> grind [Response.Tells]
  | notFound hs =>
    have hredirect := Response.checkRedirect_of_status call.request.url (Or.inr hs)
    cases ho <;> grind [Response.Tells]
  | unexpected | unreadable => cases ho <;> grind [Response.Tells]
  | badLocation _ | badRedirect _ =>
    cases ho <;> grind [Response.Tells, Response.checkRedirect_of_status]
  | relative hrel => simp [habsolute] at hrel

end

end Polling

end ClassVerification
