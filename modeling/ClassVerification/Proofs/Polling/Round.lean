import ClassVerification.Proofs.Polling.Answer

/-! One round of a poll: a request, its answer, and either the end or a wait before the next. -/
namespace ClassVerification

/-- The name of the event that announces a wait. -/
def Poll.waitingEvent : Text := "poll.waiting"

/-- An action that only tells the log something, other than that the poll waits. -/
def Action.IsNote (a : Action) : Prop := ∃ e, a = .logged e ∧ e.event ≠ Poll.waitingEvent

namespace Poll

open Polling

variable {p : Poll} {m : JobMachine} {r : Response} {record : JobRecord}

theorem isNote_logged {level : LogLevel} {logger event : Text} {fields : Members Json}
    (h : event ≠ waitingEvent) : (Action.logged ⟨level, logger, event, fields⟩).IsNote :=
  ⟨_, rfl, h⟩

theorem isNote_of_mem_singleton {a : Action} {level : LogLevel} {logger event : Text}
    {fields : Members Json} (h : event ≠ waitingEvent)
    (ha : a ∈ [Action.logged ⟨level, logger, event, fields⟩]) : a.IsNote :=
  List.mem_singleton.1 ha ▸ isNote_logged h

theorem recordOf_of_tells (h : r.Tells record) : p.recordOf r = .ok record := by
  obtain ⟨_, members, hm, hs⟩ := h
  have hj : JobRecord.ofJson (.object members) = .ok record :=
    JobRecord.ofJson_eq_ok_iff.2 ⟨members, rfl, hs⟩
  simp [recordOf, Response.parse, hm, hj]

/-- A body that tells no record is reported, in one of two wordings. -/
theorem recordOf_of_not_tells (hs : r.status = 200) (h : ∀ record, ¬ r.Tells record) :
    ∃ e, p.recordOf r = .error e ∧ Concludes p.jobId p.call (.response r) (.error e) := by
  have hfound : r.status ≠ 404 := by simp [hs]
  have hredirect := r.checkRedirect_of_status p.call.request.url (Or.inl hs)
  cases hj : r.json? with
  | none =>
    refine ⟨_, ?_, concludes_report hfound h hredirect fun _ => .unparseable hs hj⟩
    simp only [recordOf, Response.parse, hj]
    rfl
  | some value =>
    refine ⟨_, ?_, concludes_report hfound h hredirect fun _ => .malformed hs (by simp [hj]) h⟩
    cases ho : JobRecord.ofJson value with
    | error defects =>
      simp only [recordOf, Response.parse, hj, ho]
      rfl
    | ok record =>
      obtain ⟨members, rfl, hm⟩ := JobRecord.ofJson_eq_ok_iff.1 ho
      exact (h record ⟨hs, members, hj, hm⟩).elim

/-- What a told record comes to hangs on its status alone: the machine lets every status pass. -/
theorem follow_of_tells (hm : m.isTerminal = false) (ht : r.Tells record) :
    ∃ notes, (∀ a ∈ notes, a.IsNote) ∧
      ((∃ outcome, Concludes p.jobId p.call (.response r) outcome ∧
          p.follow m record = (notes, .settled outcome)) ∨
        ((record.status = 0 ∨ record.status = 1) ∧
          ∃ n, n.isTerminal = false ∧ p.follow m record = (notes, .pending n record))) := by
  have hnote (status : JobStatus) : ∀ a ∈ [p.statusEvent status record], a.IsNote :=
    fun _ => isNote_of_mem_singleton (by decide)
  rcases JobRecord.exists_code_or_out_of_range record.status with ⟨status, hs⟩ | hs
  · refine ⟨[p.statusEvent status record], hnote status, ?_⟩
    have hfollow : p.follow m record =
        ([p.statusEvent status record], p.verdict { m with status } record) := by
      simp only [follow, JobRecord.jobStatus_of_status hs, JobMachine.observe_code hm]
    rw [hfollow]
    cases status with
    | submitted => exact Or.inr ⟨Or.inl hs, _, rfl, rfl⟩
    | compiled => exact Or.inr ⟨Or.inr hs, _, rfl, rfl⟩
    | compileFailed => exact Or.inl ⟨_, .compileFailed ht hs, rfl⟩
    | failed => exact Or.inl ⟨_, .jobFailed ht hs, rfl⟩
    | succeeded => exact Or.inl ⟨_, .succeeded ht hs, rfl⟩
  · refine ⟨[], by simp, Or.inl ⟨_, .unknownStatus ht hs, ?_⟩⟩
    simp only [follow, JobRecord.jobStatus_of_out_of_range hs]
    rfl

/-- A response that is handed over either settles the matter as the table says, or is pending. -/
theorem inspect_cases (hm : m.isTerminal = false)
    (hredirect : r.checkRedirect p.call.request.url = .ok ()) :
    ∃ notes, (∀ a ∈ notes, a.IsNote) ∧
      ((∃ outcome, Concludes p.jobId p.call (.response r) outcome ∧
          p.inspect m r = (notes, .settled outcome)) ∨
        (r.isPending ∧ ∃ n record, n.isTerminal = false ∧ p.inspect m r =
          (notes, .pending n record))) := by
  by_cases hn : r.status = 404
  · exact ⟨[], by simp, Or.inl ⟨_, .notFound hn, by simp [inspect, hn, failed]⟩⟩
  by_cases hs : r.status = 200
  · by_cases ht : ∃ record, r.Tells record
    · obtain ⟨record, ht⟩ := ht
      have hinspect : p.inspect m r = p.follow m record := by
        simp [inspect, hs, recordOf_of_tells ht]
      rw [hinspect]
      obtain ⟨notes, hnotes, hsettled | ⟨hstatus, n, hn, hf⟩⟩ := follow_of_tells (p := p) hm ht
      · exact ⟨notes, hnotes, Or.inl hsettled⟩
      · exact ⟨notes, hnotes, Or.inr
          ⟨Response.isPending_iff.2 ⟨record, ht, hstatus⟩, n, record, hn, hf⟩⟩
    · obtain ⟨e, he, hc⟩ := recordOf_of_not_tells (p := p) hs (not_exists.1 ht)
      exact ⟨[], by simp, Or.inl ⟨_, hc, by simp [inspect, hs, he]⟩⟩
  · have hnot : ∀ record, ¬ r.Tells record := fun _ ht => hs ht.1
    exact ⟨[], by simp, Or.inl
      ⟨_, concludes_report hn hnot hredirect fun _ => .unexpected hs hn hredirect,
        by simp [inspect, hs, hn]⟩⟩

/-- The same for any reply, the request included. -/
theorem receive_cases (hm : m.isTerminal = false) (reply : Reply) :
    ∃ notes, (∀ a ∈ notes, a.IsNote) ∧
      ((∃ outcome, Concludes p.jobId p.call reply outcome ∧
          p.receive m reply = (.requested p.call.request :: notes, .settled outcome)) ∨
        ∃ r n record, reply = .response r ∧ r.isPending ∧ n.isTerminal = false ∧
          p.receive m reply = (.requested p.call.request :: notes, .pending n record)) := by
  cases reply with
  | broken reason =>
    exact ⟨[p.call.failed reason], fun _ => isNote_of_mem_singleton (by decide),
      Or.inl ⟨_, .broken reason, rfl⟩⟩
  | refused fault => exact ⟨[], by simp, Or.inl ⟨_, .refused fault, rfl⟩⟩
  | response r =>
    by_cases habsolute : p.call.request.url.isAbsolute
    · cases hredirect : r.checkRedirect p.call.request.url with
      | error bad =>
        cases bad with
        | location reason =>
          exact ⟨[p.call.failed reason], fun _ => isNote_of_mem_singleton (by decide), Or.inl
            ⟨_, .badLocation hredirect, by simp [receive, Call.receive, habsolute, hredirect]⟩⟩
        | fault fault =>
          exact ⟨[], by simp, Or.inl
            ⟨_, .badRedirect hredirect, by simp [receive, Call.receive, habsolute, hredirect]⟩⟩
      | ok _ =>
        have hreceive : p.receive m (.response r) =
            ([.requested p.call.request, p.call.answered r.status] ++ (p.inspect m r).1,
              (p.inspect m r).2) := by
          simp [receive, Call.receive, habsolute, hredirect]
        obtain ⟨notes, hnotes, h⟩ := inspect_cases (p := p) hm hredirect
        refine ⟨p.call.answered r.status :: notes, ?_, ?_⟩
        · intro a ha
          rcases List.mem_cons.1 ha with rfl | ha
          · exact isNote_logged (by decide)
          · exact hnotes a ha
        · rw [hreceive]
          rcases h with ⟨outcome, hc, hi⟩ | ⟨hp, n, record, hn, hi⟩
          · exact Or.inl ⟨outcome, hc, by simp [hi]⟩
          · exact Or.inr ⟨r, n, record, rfl, hp, hn, by simp [hi]⟩
    · have hrelative : p.call.request.url.isAbsolute = false := by simpa using habsolute
      exact ⟨[], by simp, Or.inl
        ⟨_, .relative hrelative, by simp [receive, Call.receive, hrelative]⟩⟩

/-- A round settles the matter, gives it up at the last attempt, or waits and leaves it to the next
round. Whichever it is, the machine never stops the poll. -/
theorem runFrom_cons (hm : m.isTerminal = false) (attempt : Nat) (reply : Reply)
    (rest : List Reply) :
    ∃ notes, (∀ a ∈ notes, a.IsNote) ∧
      ((∃ outcome, Concludes p.jobId p.call reply outcome ∧
          p.runFrom m attempt (reply :: rest) =
            ⟨.requested p.call.request :: notes, outcome, rest⟩) ∨
        ∃ r, reply = .response r ∧ r.isPending ∧
          ((p.last = some attempt ∧ p.runFrom m attempt (reply :: rest) =
              ⟨.requested p.call.request :: notes,
                .error (.failure (.timedOut p.jobId attempt)), rest⟩) ∨
            (p.last ≠ some attempt ∧ ∃ n record, n.isTerminal = false ∧
              p.runFrom m attempt (reply :: rest) =
                (p.runFrom n (attempt + 1) rest).after
                  (.requested p.call.request :: notes ++ p.waiting attempt record)))) := by
  obtain ⟨notes, hnotes, ⟨outcome, hc, h⟩ | ⟨r, n, record, rfl, hp, hn, h⟩⟩ :=
    receive_cases (p := p) hm reply
  · exact ⟨notes, hnotes, Or.inl ⟨outcome, hc, by simp [runFrom, h]⟩⟩
  · by_cases hlast : p.last = some attempt
    · refine ⟨notes ++ [p.givingUp attempt], ?_, Or.inr ⟨r, rfl, hp, Or.inl ⟨hlast, ?_⟩⟩⟩
      · intro a ha
        rcases List.mem_append.1 ha with ha | ha
        · exact hnotes a ha
        · exact isNote_of_mem_singleton (by decide) ha
      · simp [runFrom, h, hlast]
    · exact ⟨notes, hnotes, Or.inr
        ⟨r, rfl, hp, Or.inr ⟨hlast, n, record, hn, by simp [runFrom, h, hlast]⟩⟩⟩

end Poll

end ClassVerification
