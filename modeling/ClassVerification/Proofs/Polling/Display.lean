import Mathlib.Data.List.Forall2
import ClassVerification.Proofs.Polling.Patience
import ClassVerification.Proofs.Polling.Unguarded
import ClassVerification.Proofs.Polling.Verdict

/-! What a poll goes by: of the records that it is told, their status and its description. All else
in a record is only for display. -/
namespace ClassVerification

/-- Two replies that drive a poll alike: the same reply, or two that tell records with one status
and one description of it, whatever else the records tell. -/
inductive Reply.DrivesAlike : Reply → Reply → Prop where
  | same (reply : Reply) : DrivesAlike reply reply
  | record {r other : Response} {record shown : JobRecord} : r.Tells record → other.Tells shown →
      record.status = shown.status → record.statusDescription = shown.statusDescription →
      DrivesAlike (.response r) (.response other)

/-- Whether an action announces a wait to the log. -/
def Action.announcesWait : Action → Bool
  | .logged e => e.event = Poll.waitingEvent
  | _ => false

namespace Poll

variable {p : Poll} {m : JobMachine} {record shown : JobRecord} {reply other : Reply}

/-- Two findings that differ at most in the record that is pending or returned. -/
inductive Finding.Alike : Finding → Finding → Prop where
  | pending (n : JobMachine) (record shown : JobRecord) :
      Alike (.pending n record) (.pending n shown)
  | returned (record shown : JobRecord) : Alike (.settled (.ok record)) (.settled (.ok shown))
  | stopped (e : Error) : Alike (.settled (.error e)) (.settled (.error e))

theorem Finding.Alike.refl (finding : Finding) : Finding.Alike finding finding := by
  cases finding with
  | pending n record => exact .pending n record record
  | settled outcome =>
    cases outcome with
    | ok record => exact .returned record record
    | error e => exact .stopped e

theorem description_congr (h : record.statusDescription = shown.statusDescription) :
    description record = description shown := by
  simp only [description, h]

theorem verdict_alike (p : Poll) (m : JobMachine)
    (h : record.statusDescription = shown.statusDescription) :
    Finding.Alike (p.verdict m record) (p.verdict m shown) := by
  have hdescription : description record = description shown := description_congr h
  simp only [verdict, hdescription]
  cases m.status with
  | submitted | compiled => exact .pending m record shown
  | compileFailed | failed => exact .stopped _
  | succeeded => exact .returned record shown

/-- Of a record, only the status and its description decide what it comes to. -/
theorem follow_alike (p : Poll) (m : JobMachine) (hstatus : record.status = shown.status)
    (hdescription : record.statusDescription = shown.statusDescription) :
    (p.follow m record).1 = (p.follow m shown).1 ∧
      Finding.Alike (p.follow m record).2 (p.follow m shown).2 := by
  have hjob : record.jobStatus = shown.jobStatus := by
    rw [JobRecord.jobStatus, JobRecord.jobStatus, hstatus]
  simp only [follow, hjob]
  cases shown.jobStatus with
  | error f => exact ⟨rfl, .stopped _⟩
  | ok status =>
    dsimp only
    cases m.observe (.int status.code) with
    | error fault => exact ⟨rfl, .stopped _⟩
    | ok n =>
      have hevent : p.statusEvent n.status record = p.statusEvent n.status shown := by
        simp only [statusEvent, hdescription]
      exact ⟨by simp only [hevent], verdict_alike p n hdescription⟩

theorem receive_of_tells {r : Response} (h : r.Tells record) :
    p.receive m (.response r) =
      if p.call.request.url.isAbsolute then
        ([.requested p.call.request, p.call.answered 200] ++ (p.follow m record).1,
          (p.follow m record).2)
      else ([.requested p.call.request],
        .settled (.error (.fault (.relativeUrl p.call.request.url.text)))) := by
  have hredirect : r.checkRedirect p.call.request.url = .ok () :=
    Response.checkRedirect_of_status _ (Or.inl h.1)
  cases habsolute : p.call.request.url.isAbsolute with
  | false => simp [receive, Call.receive, habsolute]
  | true =>
    simp [receive, Call.receive, habsolute, hredirect, inspect, h.1, recordOf_of_tells h]

/-- Replies that drive a poll alike are followed by the same actions and alike findings. -/
theorem receive_alike (h : reply.DrivesAlike other) (p : Poll) (m : JobMachine) :
    (p.receive m reply).1 = (p.receive m other).1 ∧
      Finding.Alike (p.receive m reply).2 (p.receive m other).2 := by
  cases h with
  | same => exact ⟨rfl, .refl _⟩
  | record htells hshown hstatus hdescription =>
    obtain ⟨hactions, hfinding⟩ := follow_alike p m hstatus hdescription
    rw [receive_of_tells htells, receive_of_tells hshown]
    split
    · exact ⟨by rw [hactions], hfinding⟩
    · exact ⟨rfl, .stopped _⟩

/-- A record that is returned is the one that the reply tells. -/
theorem tells_of_returned {actions : List Action} (hm : m.isTerminal = false)
    (h : p.receive m reply = (actions, .settled (.ok record))) : reply.Tells record := by
  obtain ⟨notes, -, ⟨outcome, hconcludes, hreceive⟩ | ⟨r, n, pending, -, -, -, hreceive⟩⟩ :=
    receive_cases (p := p) hm reply
  · cases h.symm.trans hreceive
    exact (Polling.concludes_ok_iff.1 hconcludes).1
  · cases h.symm.trans hreceive

end Poll

namespace Polling

variable {p : Poll} {m : JobMachine} {attempt : Nat} {replies others rest later : List Reply}
  {reply other : Reply} {first second talk twin : Transcript JobRecord}

/-- A script tells a record at a position. -/
def RecordAt (replies : List Reply) (position : Nat) (record : JobRecord) : Prop :=
  ∃ reply, replies[position]? = some reply ∧ reply.Tells record

/-- Two polls end alike after a number of answers: in the same error, or each with the record that
the last of these answers tells. -/
inductive EndsAlike (replies others : List Reply) (taken : Nat) :
    Except Error JobRecord → Except Error JobRecord → Prop where
  | stopped (e : Error) : EndsAlike replies others taken (.error e) (.error e)
  | returned {position : Nat} {record shown : JobRecord} : taken = position + 1 →
      RecordAt replies position record → RecordAt others position shown →
      EndsAlike replies others taken (.ok record) (.ok shown)

/-- An answer more in front of both scripts. -/
theorem EndsAlike.cons {taken : Nat} {outcome ending : Except Error JobRecord}
    (h : EndsAlike rest later taken outcome ending) (reply other : Reply) :
    EndsAlike (reply :: rest) (other :: later) (taken + 1) outcome ending := by
  cases h with
  | stopped e => exact .stopped e
  | returned hposition hrecord hshown =>
    subst hposition
    exact .returned rfl hrecord hshown

/-- Two conversations that go in step, each by its own script. Whatever is done is the same in both,
but for the announcements of waits, and these come at the same places with the same numbers. -/
structure InStep (replies others : List Reply) (first second : Transcript JobRecord) : Prop where
  ends : ∃ taken, first.left = replies.drop taken ∧ second.left = others.drop taken ∧
    EndsAlike replies others taken first.outcome second.outcome
  marks : ∀ context, marks context first.actions = marks context second.actions
  others : first.actions.filter (!·.announcesWait) = second.actions.filter (!·.announcesWait)

/-- A pending answer more before both, each announced by its own record. -/
theorem InStep.after (h : InStep rest later talk twin) (reply other : Reply)
    (actions : List Action) (attempt : Nat) (record shown : JobRecord) :
    InStep (reply :: rest) (other :: later) (talk.after (actions ++ p.waiting attempt record))
      (twin.after (actions ++ p.waiting attempt shown)) := by
  obtain ⟨taken, hleft, hleft', hends⟩ := h.ends
  refine ⟨⟨taken + 1, hleft, hleft', hends.cons reply other⟩, fun context => ?_, ?_⟩
  · simp only [Transcript.after, marks_append, marks_waiting, h.marks]
  · have hwait (record : JobRecord) :
        (p.waiting attempt record).filter (!·.announcesWait) = [.slept p.interval] := rfl
    simp only [Transcript.after, List.filter_append, hwait, h.others]

/-- From any attempt on, scripts that drive a poll alike are followed in step. -/
theorem runFrom_inStep (hm : m.isTerminal = false) (attempt : Nat)
    (h : List.Forall₂ Reply.DrivesAlike replies others) :
    InStep replies others (p.runFrom m attempt replies) (p.runFrom m attempt others) := by
  induction h generalizing m attempt with
  | nil => exact ⟨⟨0, rfl, rfl, .stopped _⟩, fun _ => rfl, rfl⟩
  | @cons reply other rest later hreply _ ih =>
    obtain ⟨hactions, hfinding⟩ := Poll.receive_alike hreply p m
    rw [Poll.runFrom, Poll.runFrom]
    cases hfirst : p.receive m reply with
    | mk actions finding =>
      cases hsecond : p.receive m other with
      | mk deeds found =>
        rw [hfirst, hsecond] at hactions hfinding
        obtain rfl : actions = deeds := hactions
        cases hfinding with
        | stopped e => exact ⟨⟨1, rfl, rfl, .stopped e⟩, fun _ => rfl, rfl⟩
        | returned record shown =>
          have hrecord : RecordAt (reply :: rest) 0 record :=
            ⟨reply, rfl, Poll.tells_of_returned hm hfirst⟩
          have hshown : RecordAt (other :: later) 0 shown :=
            ⟨other, rfl, Poll.tells_of_returned hm hsecond⟩
          exact ⟨⟨1, rfl, rfl, .returned rfl hrecord hshown⟩, fun _ => rfl, rfl⟩
        | pending n record shown =>
          dsimp only
          split
          · exact ⟨⟨1, rfl, rfl, .stopped _⟩, fun _ => rfl, rfl⟩
          · have hn : n.isTerminal = false := Poll.isTerminal_of_pending hm hfirst
            exact (ih hn (attempt + 1)).after reply other actions attempt record shown

theorem filter_announcesWait_inContext (context : Members Json) (actions : List Action) :
    (actions.map (Action.inContext context)).filter (!·.announcesWait) =
      (actions.filter (!·.announcesWait)).map (Action.inContext context) := by
  have hsame : (fun a : Action => !a.announcesWait) ∘ Action.inContext context =
      fun a => !a.announcesWait := by
    funext a
    cases a <;> rfl
  rw [List.filter_map, hsame]

/-- Two ways to follow a job, from sessions that differ in their scripts alone, go in step. As many
answers are taken, and in the end both come to the same error, or each returns the record that the
last of these answers tells. The same requests are sent and the same sleeps are slept, in the same
order, each wait announced by the same number, and all other events are the same. -/
structure RunsInStep (s : Session) (others : List Reply)
    (first second : Except Error JobRecord × Session) : Prop where
  ends : ∃ taken, first.2.replies = s.replies.drop taken ∧ second.2.replies = others.drop taken ∧
    EndsAlike s.replies others taken first.1 second.1
  deeds : ∃ new twin, first.2.actions = s.actions ++ new ∧ second.2.actions = s.actions ++ twin ∧
    new.filterMap Action.mark? = twin.filterMap Action.mark? ∧
    new.filter (!·.announcesWait) = twin.filter (!·.announcesWait)

variable {settings : Settings} {network jobId : Text} {given : Option Int} {s : Session}

/-- Work that ends in an error before the first poll, with a note in the log at most. -/
theorem runsInStep_of_stopped (e : Error) (s : Session) (notes : List Action)
    (others : List Reply) :
    RunsInStep s others (.error e, s.record notes)
      (.error e, { s with replies := others }.record notes) where
  ends := ⟨0, rfl, rfl, .stopped e⟩
  deeds := ⟨_, _, Session.actions_record s notes, Session.actions_record _ notes, rfl, rfl⟩

/-- Conversations that go in step, after the same note. -/
theorem InStep.runsInStep {talk twin : Transcript JobRecord} (h : InStep s.replies others talk twin)
    (note : Action) :
    RunsInStep s others (talk.outcome, (s.record [note]).afterTalk talk)
      (twin.outcome, ({ s with replies := others }.record [note]).afterTalk twin) where
  ends := h.ends
  deeds := by
    refine ⟨_, _, Session.actions_afterTalk_record .., Session.actions_afterTalk_record .., ?_, ?_⟩
    · have hmarks : Polling.marks s.context ([note] ++ talk.actions) =
          Polling.marks s.context ([note] ++ twin.actions) := by
        rw [marks_append, marks_append, h.marks]
      exact hmarks
    · rw [filter_announcesWait_inContext, filter_announcesWait_inContext, List.filter_cons,
        List.filter_cons, h.others]

theorem follow_of_nonneg {n : Nat} (h : ceiling settings given = n) :
    follow settings network jobId given = follow settings network jobId (some n) := by
  have hsome : ceiling settings (some n) = n := rfl
  simp only [follow, h, hsome]

/-- Only the status of a record and its description drive a poll. Whatever the job, the settings and
the ceiling are, two scripts that agree at each position in the reply, or in the status and the
description of the records told there, are followed in step. -/
theorem follow_goes_by_status (settings : Settings) (network jobId : Text) (given : Option Int)
    (s : Session) {others : List Reply} (h : List.Forall₂ Reply.DrivesAlike s.replies others) :
    RunsInStep s others (Session.run (follow settings network jobId given) s)
      (Session.run (follow settings network jobId given) { s with replies := others }) := by
  by_cases hnegative : ceiling settings given < 0
  · rw [run_follow_of_neg hnegative, run_follow_of_neg hnegative]
    simpa using runsInStep_of_stopped _ s [] others
  obtain ⟨n, hn⟩ := Int.eq_ofNat_of_zero_le (Int.not_lt.1 hnegative)
  rw [follow_of_nonneg hn, run_follow_of_nat, run_follow_of_nat]
  cases Network.rootOf network .publicApi settings with
  | error e => simpa using runsInStep_of_stopped e s [] others
  | ok root =>
    dsimp only
    cases callOf settings jobId root with
    | error f => exact runsInStep_of_stopped _ s _ others
    | ok call => exact (runFrom_inStep rfl 1 h).runsInStep _

/-- A response that tells of another job than the sample does, and tells more of it. -/
def displayingResponse (status : Text) : Response where
  status := 200
  headers := [("content-type", "application/json")]
  body := Utf8.bytesOf
    ("\x7b\"name\":\"Hello\",\"created_timestamp\":5,\"status\":" ++ status ++
      ",\"status_description\":null,\"job_id\":\"xyz\",\"class_hash\":\"0x2\"\x7d")

/-- What drives a poll, of a response that tells a record. -/
def driveOf? (r : Response) : Option (Int × Option Text) :=
  r.record?.map fun record => (record.status, record.statusDescription)

theorem drivesAlike_of_driveOf? {r other : Response} {drive : Int × Option Text}
    (h : driveOf? r = some drive) (hother : driveOf? other = some drive) :
    Reply.DrivesAlike (.response r) (.response other) := by
  obtain ⟨record, hrecord, rfl⟩ := Option.map_eq_some_iff.1 h
  obtain ⟨shown, hshown, heq⟩ := Option.map_eq_some_iff.1 hother
  obtain ⟨hstatus, hdescription⟩ := Prod.mk.inj heq
  exact .record (Response.tells_iff.2 hrecord) (Response.tells_iff.2 hshown) hstatus.symm
    hdescription.symm

/-- A job is followed in step by two scripts that tell of different jobs. -/
theorem displayed_fields_are_passed_over :
    let s : Session :=
      { replies := [.response (sampleResponse "1"), .response (sampleResponse "4")] }
    let others : List Reply :=
      [.response (displayingResponse "1"), .response (displayingResponse "4")]
    List.Forall₂ Reply.DrivesAlike s.replies others ∧
      RunsInStep s others (Session.run (follow sampleSettings "sepolia" "abc" none) s)
        (Session.run (follow sampleSettings "sepolia" "abc" none)
          { s with replies := others }) := by
  intro s others
  have hpending : Reply.DrivesAlike (.response (sampleResponse "1"))
      (.response (displayingResponse "1")) :=
    @drivesAlike_of_driveOf? _ _ (1, none) (by decide +kernel) (by decide +kernel)
  have hdone : Reply.DrivesAlike (.response (sampleResponse "4"))
      (.response (displayingResponse "4")) :=
    @drivesAlike_of_driveOf? _ _ (4, none) (by decide +kernel) (by decide +kernel)
  have hscripts : List.Forall₂ Reply.DrivesAlike s.replies others :=
    .cons hpending (.cons hdone .nil)
  exact ⟨hscripts, follow_goes_by_status sampleSettings "sepolia" "abc" none s hscripts⟩

end Polling

end ClassVerification
