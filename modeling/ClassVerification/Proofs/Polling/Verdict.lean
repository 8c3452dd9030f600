import ClassVerification.Proofs.Polling.Ceiling

/-! The outcome of following a job is decided by the last answer that was taken. -/
namespace ClassVerification

/-- A reply tells a record if it is a response that does. -/
def Reply.Tells (reply : Reply) (record : JobRecord) : Prop :=
  ∃ r, reply = .response r ∧ r.Tells record

/-- The description that a failed job is reported with: that of its record, or a fixed one where the
record has none or an empty one. -/
def JobRecord.Describes (record : JobRecord) (description : Text) : Prop :=
  (record.statusDescription = some description ∧ description ≠ []) ∨
    ((record.statusDescription = none ∨ record.statusDescription = some []) ∧
      description = "unknown failure")

theorem JobRecord.describes_iff {record : JobRecord} {description : Text} :
    record.Describes description ↔ description = Poll.description record := by
  cases hd : record.statusDescription with
  | none => simp [Describes, Poll.description, hd, Poll.unknownFailure]
  | some t =>
    cases t with
    | nil => simp [Describes, Poll.description, hd, Poll.unknownFailure]
    | cons c t =>
      simp only [Describes, Poll.description, hd, Option.some.injEq, reduceCtorEq, false_and,
        or_false, List.isEmpty_cons, Bool.false_eq_true, if_false]
      refine ⟨fun h => h.1.symm, fun h => ⟨h.symm, ?_⟩⟩
      simp [h]

namespace Polling

variable {p : Poll} {m : JobMachine} {attempt : Nat} {last : Reply}

theorem runFrom_left_suffix (m : JobMachine) (attempt : Nat) (reply : Reply) (rest : List Reply) :
    (p.runFrom m attempt (reply :: rest)).left <:+ rest := by
  induction rest generalizing m attempt reply with
  | nil =>
    rw [Poll.runFrom]
    split
    · exact List.suffix_refl _
    · split
      · exact List.suffix_refl _
      · exact List.suffix_refl _
  | cons next rest ih =>
    rw [Poll.runFrom]
    split
    · exact List.suffix_refl _
    · split
      · exact List.suffix_refl _
      · exact (ih _ _ next).trans (List.suffix_cons next rest)

/-- A run that leaves all the replies had none. -/
theorem eq_nil_of_runFrom_left {replies : List Reply}
    (h : (p.runFrom m attempt replies).left = replies) : replies = [] := by
  cases replies with
  | nil => rfl
  | cons reply rest =>
    have hle := (runFrom_left_suffix (p := p) m attempt reply rest).length_le
    rw [h, List.length_cons] at hle
    omega

/-- How a poll stands after its last answer: the answer concludes the matter, or it was pending and
either the ceiling was reached or nothing more came. -/
def EndsWith (p : Poll) (polls : Nat) (last : Reply) (talk : Transcript JobRecord) : Prop :=
  Concludes p.jobId p.call last talk.outcome ∨
    ∃ r, last = .response r ∧ r.isPending ∧
      ((p.last = some polls ∧ talk.outcome = .error (.failure (.timedOut p.jobId polls))) ∨
        (p.last ≠ some polls ∧ talk.outcome = .error (.fault .noReplyLeft)))

/-- The only reply before a rest is the last one before it. -/
theorem eq_nil_of_cons_eq_append {reply : Reply} {rest front : List Reply}
    (h : reply :: rest = front ++ last :: rest) : front = [] ∧ reply = last := by
  cases front with
  | nil => exact ⟨rfl, (List.cons.inj h).1⟩
  | cons first front =>
    have hlength := congrArg List.length h
    simp only [List.length_cons, List.length_append] at hlength
    omega

/-- From any attempt on, a run ends as the last reply that it takes says. -/
theorem runFrom_endsWith (hm : m.isTerminal = false) (attempt : Nat) {replies front : List Reply}
    (h : replies = front ++ last :: (p.runFrom m attempt replies).left) :
    EndsWith p (attempt + front.length) last (p.runFrom m attempt replies) := by
  induction replies generalizing m attempt front with
  | nil => simp at h
  | cons reply rest ih =>
    obtain ⟨notes, -, ⟨outcome, hc, hrun⟩ |
        ⟨r, rfl, hp, ⟨hgiven, hrun⟩ | ⟨hnext, n, record, hn, hrun⟩⟩⟩ :=
      Poll.runFrom_cons (p := p) hm attempt reply rest
    · rw [hrun] at h ⊢
      obtain ⟨-, rfl⟩ := eq_nil_of_cons_eq_append h
      exact Or.inl hc
    · rw [hrun] at h ⊢
      obtain ⟨rfl, rfl⟩ := eq_nil_of_cons_eq_append h
      exact Or.inr ⟨r, rfl, hp, Or.inl ⟨hgiven, rfl⟩⟩
    · rw [hrun] at h ⊢
      cases front with
      | nil =>
        -- the poll went on, and yet this was the last reply that it took: there was no other
        obtain ⟨rfl, hleft⟩ := List.cons.inj h
        obtain rfl := eq_nil_of_runFrom_left hleft.symm
        exact Or.inr ⟨r, rfl, hp, Or.inr ⟨hnext, rfl⟩⟩
      | cons first front =>
        have hattempt : attempt + (front.length + 1) = attempt + 1 + front.length := by omega
        rw [List.length_cons, hattempt]
        exact ih hn (attempt + 1) (List.cons.inj h).2

section

variable {settings : Settings} {network jobId : Text} {given : Option Int} {call : Call}
  {s after : Session} {outcome : Except Error JobRecord} {used : List Reply}

/-- Following a job ends as the last answer says that it took. -/
theorem follow_endsWith (hcall : Sendable settings network jobId call)
    (hrun : Session.run (follow settings network jobId given) s = (outcome, after))
    (hused : s.replies = used ++ last :: after.replies) :
    Concludes jobId call last outcome ∨
      ∃ r, last = .response r ∧ r.isPending ∧
        ((settings.usePollingCeiling ∧ ceiling settings given = used.length ∧
            outcome = .error (.failure (.timedOut jobId ((used.length + 1 : Nat) : Int)))) ∨
          (¬ (settings.usePollingCeiling ∧ ceiling settings given = used.length) ∧
            outcome = .error (.fault .noReplyLeft))) := by
  by_cases hnonneg : 0 ≤ ceiling settings given
  · rw [run_follow hcall hnonneg] at hrun
    obtain ⟨rfl, rfl⟩ := Prod.mk.inj hrun
    have hlast : (pollFor settings jobId call (ceiling settings given)).last =
        some (1 + used.length) ↔
          settings.usePollingCeiling ∧ ceiling settings given = used.length := by
      by_cases hflag : settings.usePollingCeiling
      · simp only [pollFor, hflag, if_true, Option.some.injEq, true_and]
        omega
      · simp [pollFor, hflag]
    obtain hc | ⟨r, hr, hp, ⟨hgiven, ho⟩ | ⟨hgiven, ho⟩⟩ :=
      runFrom_endsWith (p := pollFor settings jobId call (ceiling settings given)) (m := {})
        rfl 1 hused
    · exact Or.inl hc
    · refine Or.inr ⟨r, hr, hp, Or.inl ⟨(hlast.1 hgiven).1, (hlast.1 hgiven).2, ?_⟩⟩
      rw [Nat.add_comm] at ho
      exact ho
    · exact Or.inr ⟨r, hr, hp, Or.inr ⟨fun h => hgiven (hlast.2 h), ho⟩⟩
  · rw [run_follow_of_neg (by omega)] at hrun
    obtain ⟨-, rfl⟩ := Prod.mk.inj hrun
    have hlength := congrArg List.length hused
    simp only [List.length_append, List.length_cons] at hlength
    omega

/-- An outcome other than giving up is had just where the table gives it. -/
theorem follow_eq_iff_concludes (hcall : Sendable settings network jobId call)
    (hrun : Session.run (follow settings network jobId given) s = (outcome, after))
    (hused : s.replies = used ++ last :: after.replies) {o : Except Error JobRecord}
    (htimeout : ∀ id polls, o ≠ .error (.failure (.timedOut id polls)))
    (hfault : ∀ fault, o ≠ .error (.fault fault)) :
    outcome = o ↔ Concludes jobId call last o := by
  rcases follow_endsWith hcall hrun hused with hc | ⟨r, rfl, hp, ⟨-, -, ho⟩ | ⟨-, ho⟩⟩
  · exact ⟨fun h => h ▸ hc, fun h => hc.unique hcall.isAbsolute h⟩
  · exact ⟨fun h => (htimeout _ _ (h.symm.trans ho)).elim,
      fun h => (not_concludes_of_isPending hcall.isAbsolute hp h).elim⟩
  · exact ⟨fun h => (hfault _ (h.symm.trans ho)).elim,
      fun h => (not_concludes_of_isPending hcall.isAbsolute hp h).elim⟩

theorem concludes_ok_iff {record : JobRecord} :
    Concludes jobId call last (.ok record) ↔ last.Tells record ∧ record.status = 4 := by
  constructor
  · intro h
    cases h with
    | succeeded ht hs => exact ⟨⟨_, rfl, ht⟩, hs⟩
  · rintro ⟨⟨r, rfl, ht⟩, hs⟩
    exact .succeeded ht hs

theorem concludes_compilationFailed_iff {id description : Text} :
    Concludes jobId call last (.error (.failure (.compilationFailed id description))) ↔
      id = jobId ∧ ∃ record, last.Tells record ∧ record.status = 2 ∧
        record.Describes description := by
  constructor
  · intro h
    cases h with
    | compileFailed ht hs => exact ⟨rfl, _, ⟨_, rfl, ht⟩, hs, JobRecord.describes_iff.2 rfl⟩
  · rintro ⟨rfl, record, ⟨r, rfl, ht⟩, hs, hd⟩
    rw [JobRecord.describes_iff.1 hd]
    exact .compileFailed ht hs

theorem concludes_jobFailed_iff {id description summary : Text} :
    Concludes jobId call last (.error (.failure (.jobFailed id description summary))) ↔
      id = jobId ∧ summary = Failure.failedToVerify ∧ ∃ record, last.Tells record ∧
        record.status = 3 ∧ record.Describes description := by
  constructor
  · intro h
    cases h with
    | jobFailed ht hs => exact ⟨rfl, rfl, _, ⟨_, rfl, ht⟩, hs, JobRecord.describes_iff.2 rfl⟩
  · rintro ⟨rfl, rfl, record, ⟨r, rfl, ht⟩, hs, hd⟩
    rw [JobRecord.describes_iff.1 hd]
    exact .jobFailed ht hs

theorem concludes_jobNotFound_iff {id : Text} :
    Concludes jobId call last (.error (.failure (.jobNotFound id))) ↔
      id = jobId ∧ ∃ r, last = .response r ∧ r.status = 404 := by
  constructor
  · intro h
    cases h with
    | notFound hs => exact ⟨rfl, _, rfl, hs⟩
  · rintro ⟨rfl, r, rfl, hs⟩
    exact .notFound hs

theorem concludes_unknownJobStatus_iff {status : Json} :
    Concludes jobId call last (.error (.failure (.unknownJobStatus status))) ↔
      ∃ record, last.Tells record ∧ (record.status < 0 ∨ 4 < record.status) ∧
        status = .int record.status := by
  constructor
  · intro h
    cases h with
    | unknownStatus ht hs => exact ⟨_, ⟨_, rfl, ht⟩, hs, rfl⟩
  · rintro ⟨record, ⟨r, rfl, ht⟩, hs, rfl⟩
    exact .unknownStatus ht hs

theorem concludes_protocol_iff {message code : Text} :
    Concludes jobId call last (.error (.failure (.protocol message code))) ↔
      code = Failure.protocolCode ∧ ∃ r t, last = .response r ∧ r.status = 200 ∧ r.text = .ok t ∧
        ((r.json? = none ∧ message = unparseable call r t) ∨
          (r.json?.isSome ∧ (∀ record, ¬ r.Tells record) ∧
            message = "Malformed job record: " ++ t.take 200)) := by
  constructor
  · intro h
    generalize ho : Except.error (Error.failure (Failure.protocol message code)) = o at h
    cases h with
    | malformed hs hj hn ht =>
      cases ho
      exact ⟨rfl, _, _, rfl, hs, ht, Or.inr ⟨hj, hn, rfl⟩⟩
    | unparseable hs hj ht =>
      cases ho
      exact ⟨rfl, _, _, rfl, hs, ht, Or.inl ⟨hj, rfl⟩⟩
    | _ => cases ho
  · rintro ⟨rfl, r, t, rfl, hs, ht, ⟨hj, rfl⟩ | ⟨hj, hn, rfl⟩⟩
    · exact .unparseable hs hj ht
    · exact .malformed hs hj hn ht

theorem concludes_unexpectedResponse_iff {context body : Text} {status : Int} :
    Concludes jobId call last (.error (.failure (.unexpectedResponse context status body))) ↔
      ∃ r, last = .response r ∧ r.status ≠ 200 ∧ r.status ≠ 404 ∧
        r.checkRedirect call.request.url = .ok () ∧ status = r.status ∧ r.text = .ok body ∧
        context = "Unexpected response while polling job" := by
  constructor
  · intro h
    cases h with
    | unexpected hs hn hr ht => exact ⟨_, rfl, hs, hn, hr, rfl, ht, rfl⟩
  · rintro ⟨r, rfl, hs, hn, hr, rfl, ht, rfl⟩
    exact .unexpected hs hn hr ht

theorem concludes_transport_iff {url reason : Text} :
    Concludes jobId call last (.error (.failure (.transport url reason))) ↔
      url = call.written ∧ (last = .broken reason ∨ ∃ r, last = .response r ∧
        r.checkRedirect call.request.url = .error (.location reason)) := by
  constructor
  · intro h
    generalize ho : Except.error (Error.failure (Failure.transport url reason)) = o at h
    cases h with
    | badLocation hl =>
      cases ho
      exact ⟨rfl, Or.inr ⟨_, rfl, hl⟩⟩
    | broken reason =>
      cases ho
      exact ⟨rfl, Or.inl rfl⟩
    | _ => cases ho
  · rintro ⟨rfl, rfl | ⟨r, rfl, hl⟩⟩
    · exact .broken reason
    · exact .badLocation hl

/-- The answers that end in a fault: no address comes of the place that they send the client to, or
their text is asked for and cannot be read. -/
theorem concludes_fault_iff {fault : Fault} (habsolute : call.request.url.isAbsolute) :
    Concludes jobId call last (.error (.fault fault)) ↔ last = .refused fault ∨
      ∃ r, last = .response r ∧
        (r.checkRedirect call.request.url = .error (.fault fault) ∨
          (r.status ≠ 404 ∧ (∀ record, ¬ r.Tells record) ∧
            r.checkRedirect call.request.url = .ok () ∧ r.text = .error fault)) := by
  constructor
  · intro h
    cases h with
    | unreadable hn hnot hr ht => exact Or.inr ⟨_, rfl, Or.inr ⟨hn, hnot, hr, ht⟩⟩
    | badRedirect hl => exact Or.inr ⟨_, rfl, Or.inl hl⟩
    | refused => exact Or.inl rfl
    | relative hrelative => simp [habsolute] at hrelative
  · rintro (rfl | ⟨r, rfl, hl | ⟨hn, hnot, hr, ht⟩⟩)
    · exact .refused fault
    · exact .badRedirect hl
    · exact .unreadable hn hnot hr ht

/-- A reply tells the record of a job that is not done if it is a pending response. -/
theorem exists_undone_iff :
    (∃ record, last.Tells record ∧ (record.status = 0 ∨ record.status = 1)) ↔
      ∃ r, last = .response r ∧ r.isPending := by
  constructor
  · rintro ⟨record, ⟨r, rfl, ht⟩, hs⟩
    exact ⟨r, rfl, Response.isPending_iff.2 ⟨record, ht, hs⟩⟩
  · rintro ⟨r, rfl, hp⟩
    obtain ⟨record, ht, hs⟩ := Response.isPending_iff.1 hp
    exact ⟨record, ⟨r, rfl, ht⟩, hs⟩

theorem follow_eq_fault_iff (hcall : Sendable settings network jobId call)
    (hrun : Session.run (follow settings network jobId given) s = (outcome, after))
    (hused : s.replies = used ++ last :: after.replies) (fault : Fault) :
    outcome = .error (.fault fault) ↔ Concludes jobId call last (.error (.fault fault)) ∨
      (fault = .noReplyLeft ∧
        ¬ (settings.usePollingCeiling ∧ ceiling settings given = used.length) ∧
        ∃ record, last.Tells record ∧ (record.status = 0 ∨ record.status = 1)) := by
  have hpending {r : Response} {o : Except Error JobRecord} (hp : r.isPending) :
      ¬ Concludes jobId call (.response r) o := not_concludes_of_isPending hcall.isAbsolute hp
  rcases follow_endsWith hcall hrun hused with hc | ⟨r, rfl, hp, ⟨hflag, hceiling, ho⟩ | ⟨hno, ho⟩⟩
  · constructor
    · rintro rfl
      exact Or.inl hc
    · rintro (h | ⟨-, -, hundone⟩)
      · exact hc.unique hcall.isAbsolute h
      · obtain ⟨r, rfl, hp⟩ := exists_undone_iff.1 hundone
        exact (hpending hp hc).elim
  · constructor
    · intro h
      cases ho.symm.trans h
    · rintro (h | ⟨-, hno, -⟩)
      · exact (hpending hp h).elim
      · exact (hno ⟨hflag, hceiling⟩).elim
  · constructor
    · intro h
      cases ho.symm.trans h
      exact Or.inr ⟨rfl, hno, exists_undone_iff.2 ⟨r, rfl, hp⟩⟩
    · rintro (h | ⟨rfl, -, -⟩)
      · exact (hpending hp h).elim
      · exact ho

theorem follow_eq_timedOut_iff (hcall : Sendable settings network jobId call)
    (hrun : Session.run (follow settings network jobId given) s = (outcome, after))
    (hused : s.replies = used ++ last :: after.replies) (id : Text) (attempts : Int) :
    outcome = .error (.failure (.timedOut id attempts)) ↔
      id = jobId ∧ attempts = used.length + 1 ∧ settings.usePollingCeiling ∧
        ceiling settings given = used.length ∧
        ∃ record, last.Tells record ∧ (record.status = 0 ∨ record.status = 1) := by
  rcases follow_endsWith hcall hrun hused with hc | ⟨r, rfl, hp, ⟨hflag, hceiling, ho⟩ | ⟨hno, ho⟩⟩
  · constructor
    · rintro rfl
      generalize ho : Except.error (Error.failure (Failure.timedOut id attempts)) = o at hc
      cases hc <;> cases ho
    · rintro ⟨-, -, -, -, hundone⟩
      obtain ⟨r, rfl, hp⟩ := exists_undone_iff.1 hundone
      exact (not_concludes_of_isPending hcall.isAbsolute hp hc).elim
  · constructor
    · intro h
      cases ho.symm.trans h
      exact ⟨rfl, rfl, hflag, hceiling, exists_undone_iff.2 ⟨r, rfl, hp⟩⟩
    · rintro ⟨rfl, rfl, -⟩
      exact ho
  · constructor
    · intro h
      cases ho.symm.trans h
    · rintro ⟨-, -, hflag, hceiling, -⟩
      exact (hno ⟨hflag, hceiling⟩).elim

/-- What an outcome says about the last answer that was taken after some others, one field for each
kind of outcome. -/
structure SaysOfLast (settings : Settings) (jobId : Text) (given : Option Int) (call : Call)
    (used : List Reply) (last : Reply) (outcome : Except Error JobRecord) : Prop where
  returned : ∀ record, outcome = .ok record ↔ last.Tells record ∧ record.status = 4
  compilationFailed : ∀ id description,
    outcome = .error (.failure (.compilationFailed id description)) ↔
      id = jobId ∧ ∃ record, last.Tells record ∧ record.status = 2 ∧ record.Describes description
  jobFailed : ∀ id description summary,
    outcome = .error (.failure (.jobFailed id description summary)) ↔
      id = jobId ∧ summary = Failure.failedToVerify ∧ ∃ record, last.Tells record ∧
        record.status = 3 ∧ record.Describes description
  jobNotFound : ∀ id, outcome = .error (.failure (.jobNotFound id)) ↔
    id = jobId ∧ ∃ r, last = .response r ∧ r.status = 404
  unknownJobStatus : ∀ status, outcome = .error (.failure (.unknownJobStatus status)) ↔
    ∃ record, last.Tells record ∧ (record.status < 0 ∨ 4 < record.status) ∧
      status = .int record.status
  protocol : ∀ message code, outcome = .error (.failure (.protocol message code)) ↔
    code = Failure.protocolCode ∧ ∃ r t, last = .response r ∧ r.status = 200 ∧ r.text = .ok t ∧
      ((r.json? = none ∧ message = unparseable call r t) ∨
        (r.json?.isSome ∧ (∀ record, ¬ r.Tells record) ∧
          message = "Malformed job record: " ++ t.take 200))
  unexpectedResponse : ∀ context status body,
    outcome = .error (.failure (.unexpectedResponse context status body)) ↔
      ∃ r, last = .response r ∧ r.status ≠ 200 ∧ r.status ≠ 404 ∧
        r.checkRedirect call.request.url = .ok () ∧ status = r.status ∧ r.text = .ok body ∧
        context = "Unexpected response while polling job"
  transport : ∀ url reason, outcome = .error (.failure (.transport url reason)) ↔
    url = call.written ∧ (last = .broken reason ∨ ∃ r, last = .response r ∧
      r.checkRedirect call.request.url = .error (.location reason))
  timedOut : ∀ id attempts, outcome = .error (.failure (.timedOut id attempts)) ↔
    id = jobId ∧ attempts = used.length + 1 ∧ settings.usePollingCeiling ∧
      ceiling settings given = used.length ∧
      ∃ record, last.Tells record ∧ (record.status = 0 ∨ record.status = 1)
  undeclared : ∀ fault, outcome = .error (.fault fault) ↔
    last = .refused fault ∨
    (∃ r, last = .response r ∧
      (r.checkRedirect call.request.url = .error (.fault fault) ∨
        (r.status ≠ 404 ∧ (∀ record, ¬ r.Tells record) ∧
          r.checkRedirect call.request.url = .ok () ∧ r.text = .error fault))) ∨
    (fault = .noReplyLeft ∧ ¬ (settings.usePollingCeiling ∧ ceiling settings given = used.length) ∧
      ∃ record, last.Tells record ∧ (record.status = 0 ∨ record.status = 1))

end

/-- A record of a job that has succeeded, with nothing optional. -/
def sampleRecord : JobRecord where
  jobId := "abc"
  status := 4
  statusDescription := none
  classHash := "0x1"
  createdTimestamp := none
  updatedTimestamp := none
  address := none
  contractFile := none
  name := none
  version := none
  license := none

/-- An answer that sends the client to another place. -/
def redirectingAnswer (location : Text) : Response where
  status := 302
  headers := [("location", location)]
  body := []

end Polling

end ClassVerification
