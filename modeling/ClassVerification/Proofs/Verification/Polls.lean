import ClassVerification.Proofs.Polling.Verdict
import ClassVerification.Proofs.Verification.Course

/-! Following a job, as a course of deeds: one poll after the other, a wait between two. -/
namespace ClassVerification

/-- A conversation that begins with a request and a wait, and goes on as another one. -/
theorem Session.afterTalk_of_waited {α : Type} (s : Session) (talk : Transcript α)
    (request : Request) (notes : List Action) (e : LogEvent) (seconds : Binary64) :
    s.afterTalk (talk.after (.requested request :: notes ++ [.logged e, .slept seconds])) =
      (((s.sent request).record (notes ++ [.logged e])).waited seconds).afterTalk talk := by
  simp [afterTalk, Transcript.after, record, sent, waited]

theorem Action.isLogged_of_isNote {notes : List Action} (h : ∀ a ∈ notes, a.IsNote) :
    ∀ a ∈ notes, a.IsLogged := by
  intro a ha
  obtain ⟨e, rfl, -⟩ := h a ha
  exact ⟨e, rfl⟩

namespace Verification

/-- A number of polls with waits after them, and one more poll. -/
def polls (address : Option Text) (interval : Binary64) : Nat → List Move
  | 0 => [.poll address]
  | count + 1 => .poll address :: .wait interval :: polls address interval count

/-- The deeds end with a poll whose answer tells a record of status four. -/
def EndsWell (record : JobRecord) (deeds : List Deed) : Prop :=
  ∃ front call r, deeds = front ++ [.poll call (some (.response r))] ∧ r.Tells record ∧
    record.status = 4

variable {v : Verification} {p : Poll} {m : JobMachine} {s t : Session} {deeds : List Deed}
  {jobId : Text}

theorem EndsWell.append {record : JobRecord} (h : EndsWell record deeds) (first : List Deed) :
    EndsWell record (first ++ deeds) := by
  obtain ⟨front, call, r, rfl, hr⟩ := h
  exact ⟨first ++ front, call, r, by simp, hr⟩

/-- The deeds of a conversation that polls from some attempt on. -/
theorem runFrom_course (hfor : p.call.IsFor .get p.call.written) (hm : m.isTerminal = false)
    (jobId : Text) (attempt : Nat) (replies : List Reply) (s : Session)
    (hs : s.replies = replies) :
    let talk := p.runFrom m attempt replies
    ∃ deeds count, Trace v s deeds (s.afterTalk talk) ∧
      deeds.map Deed.move = polls (some p.call.written) p.interval count ∧
      (∀ d ∈ deeds.dropLast, d.LeadsOn jobId) ∧
      ∀ record, talk.outcome = .ok record → EndsWell record deeds := by
  induction replies generalizing m attempt s with
  | nil =>
    refine ⟨[.poll p.call s.replies.head?], 0, ?_, rfl, by simp, by simp [Poll.runFrom]⟩
    have hafter : s.afterTalk (p.runFrom m attempt []) = (s.sent p.call.request).record [] :=
      Session.afterTalk_of_sent rfl (by simp [Poll.runFrom, hs])
    rw [hafter, Session.record_nil]
    exact .single (.poll hfor)
  | cons reply rest ih =>
    have hpoll : Step v s (.poll p.call (some reply)) (s.sent p.call.request) := by
      have hstep : Step v s (.poll p.call s.replies.head?) (s.sent p.call.request) := .poll hfor
      rwa [hs] at hstep
    have hlast {notes : List Action} {outcome : Except Error JobRecord}
        (hnotes : ∀ a ∈ notes, a.IsNote) : Trace v s [.poll p.call (some reply)]
          (s.afterTalk ⟨.requested p.call.request :: notes, outcome, rest⟩) := by
      rw [Session.afterTalk_of_sent rfl (by simp [hs])]
      exact .step (.refl s) hpoll (.quiet (.record (Action.isLogged_of_isNote hnotes)))
    obtain ⟨notes, hnotes, ⟨outcome, hc, hrun⟩ |
        ⟨r, rfl, hp, ⟨-, hrun⟩ | ⟨-, n, record, hn, hrun⟩⟩⟩ :=
      Poll.runFrom_cons (p := p) hm attempt reply rest
    · rw [hrun]
      refine ⟨_, 0, hlast hnotes, rfl, by simp, fun record hok => ?_⟩
      obtain rfl : outcome = .ok record := hok
      obtain ⟨⟨r, rfl, ht⟩, hstatus⟩ := Polling.concludes_ok_iff.1 hc
      exact ⟨[], p.call, r, rfl, ht, hstatus⟩
    · rw [hrun]
      exact ⟨_, 0, hlast hnotes, rfl, by simp, by simp⟩
    · obtain ⟨e, he⟩ : ∃ e, p.waiting attempt record = [.logged e, .slept p.interval] := ⟨_, rfl⟩
      have hnote : ∀ a ∈ notes ++ [.logged e], a.IsLogged := by
        intro a ha
        rcases List.mem_append.1 ha with ha | ha
        · exact Action.isLogged_of_isNote hnotes a ha
        · exact ⟨e, List.mem_singleton.1 ha⟩
      rw [hrun, he]
      obtain ⟨deeds, count, htrace, hmoves, hled, hok⟩ := ih hn (attempt + 1)
        (((s.sent p.call.request).record (notes ++ [.logged e])).waited p.interval)
        (by simp [Session.sent, Session.waited, Session.record, hs])
      refine ⟨.poll p.call (some (.response r)) :: .wait p.interval :: deeds, count + 1, ?_, ?_, ?_,
        fun record h => (hok record h).append [_, _]⟩
      · rw [Session.afterTalk_of_waited]
        exact .step (.refl s) hpoll (.step (.record hnote) .wait htrace)
      · simp [polls, Deed.move, hmoves]
      · have hne : deeds ≠ [] := by
          rintro rfl
          cases count <;> cases hmoves
        intro d hd
        rw [List.dropLast_cons_of_ne_nil (by simp), List.dropLast_cons_of_ne_nil hne] at hd
        rcases List.mem_cons.1 hd with rfl | hd
        · exact ⟨r, rfl, hp⟩
        rcases List.mem_cons.1 hd with rfl | hd
        · trivial
        · exact hled d hd

/-- Following a job stops before the first poll, or is a course of polls for that job. -/
theorem run_follow_course {settings : Settings} {network : Text} {given : Option Int}
    {outcome : Except Error JobRecord} (v : Verification)
    (h : Session.run (Polling.follow settings network jobId given) s = (outcome, t)) :
    (∃ e, outcome = .error e ∧ s.Quiet t) ∨
      ∃ root deeds count, Network.rootOf network .publicApi settings = .ok root ∧
        Trace v s deeds t ∧
        deeds.map Deed.move = polls (some (Endpoint.getJobStatus.address root jobId))
          settings.pollingInterval count ∧
        (∀ d ∈ deeds.dropLast, d.LeadsOn jobId) ∧
        ∀ record, outcome = .ok record → EndsWell record deeds := by
  by_cases hneg : Polling.ceiling settings given < 0
  · rw [Polling.run_follow_of_neg hneg] at h
    obtain ⟨rfl, rfl⟩ := Prod.mk.inj h
    exact Or.inl ⟨_, rfl, .refl _⟩
  simp only [Polling.follow, hneg, if_false] at h
  rcases Session.run_bind_cases_of_eq (Session.run_addressOf ..) h with
      ⟨e, rfl, rfl⟩ | ⟨root, hroot, h⟩
  · exact Or.inl ⟨e, rfl, .refl _⟩
  rw [SessionM.log, Session.run_record_bind] at h
  generalize hu : s.record _ = u at h
  have hlog : s.Quiet u := hu ▸ .log
  rcases Session.run_orFault_bind_cases h with ⟨e, rfl, rfl⟩ | ⟨client, hclient, h⟩
  · exact Or.inl ⟨e, rfl, hlog⟩
  rcases Session.run_orFault_bind_cases h with ⟨e, rfl, rfl⟩ | ⟨p, hp, h⟩
  · exact Or.inl ⟨e, rfl, hlog⟩
  obtain ⟨call, hcall, rfl⟩ := Outcome.map_eq_ok_iff.1 hp
  have hfor := (Client.prepare_eq_ok hclient hcall).1
  rw [Session.run_converse] at h
  obtain ⟨rfl, rfl⟩ := Prod.mk.inj h
  obtain ⟨deeds, count, htrace, hmoves, hled, hok⟩ :=
    runFrom_course (v := v) (m := {})
      (p := Polling.pollFor settings jobId call (Polling.ceiling settings given))
      hfor.self rfl jobId 1 u.replies u rfl
  refine Or.inr ⟨root, deeds, count, hroot, Trace.append (.quiet hlog) htrace, ?_, hled, hok⟩
  rw [← hfor.written]
  exact hmoves

end Verification

end ClassVerification
