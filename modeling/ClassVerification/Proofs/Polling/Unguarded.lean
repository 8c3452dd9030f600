import ClassVerification.Proofs.Polling.Round

/-! The machine never stops a poll: a poller that goes by the status of each record alone does the
same. -/
namespace ClassVerification

namespace Poll

namespace Unguarded

/-- What a poll finds where no machine follows the job. -/
inductive Finding where
  | pending (record : JobRecord)
  | settled (outcome : Except Error JobRecord)

def failed (f : Failure) : Finding := .settled (.error (.failure f))

/-- What a record comes to by the status that it tells. -/
def verdict (p : Poll) (r : JobRecord) : JobStatus → Finding
  | .submitted | .compiled => .pending r
  | .compileFailed => failed (.compilationFailed p.jobId (description r))
  | .failed => failed (.jobFailed p.jobId (description r) Failure.failedToVerify)
  | .succeeded => .settled (.ok r)

/-- What a response comes to. -/
def inspect (p : Poll) (r : Response) : List Action × Finding :=
  if r.status = 404 then ([], failed (.jobNotFound p.jobId))
  else if r.status != 200 then
    ([], .settled (.error
      (r.report (.unexpectedResponse "Unexpected response while polling job" r.status))))
  else match p.recordOf r with
    | .error e => ([], .settled (.error e))
    | .ok record =>
      match record.jobStatus with
      | .error f => ([], failed f)
      | .ok status => ([p.statusEvent status record], verdict p record status)

/-- What a reply comes to, the request included. -/
def receive (p : Poll) (reply : Reply) : List Action × Finding :=
  let (actions, outcome) := p.call.receive reply
  let actions := .requested p.call.request :: actions
  match outcome with
  | .error e => (actions, .settled (.error e))
  | .ok response =>
    let (events, finding) := inspect p response
    (actions ++ events, finding)

/-- Polls from an attempt on. -/
def runFrom (p : Poll) (attempt : Nat) : List Reply → Transcript JobRecord
  | [] => ⟨[.requested p.call.request], .error (.fault .noReplyLeft), []⟩
  | reply :: rest =>
    match receive p reply with
    | (actions, .settled outcome) => ⟨actions, outcome, rest⟩
    | (actions, .pending record) =>
      if p.last = some attempt then
        ⟨actions ++ [p.givingUp attempt], .error (.failure (.timedOut p.jobId attempt)), rest⟩
      else (runFrom p (attempt + 1) rest).after (actions ++ p.waiting attempt record)

end Unguarded

/-- What is left of a finding when the machine is forgotten. -/
def Finding.unguarded : Finding → Unguarded.Finding
  | .pending _ record => .pending record
  | .settled outcome => .settled outcome

/-- The replies that are processed from an attempt on, each with the machine as it stands then. -/
def processedFrom (p : Poll) (m : JobMachine) (attempt : Nat) :
    List Reply → List (JobMachine × Reply)
  | [] => []
  | reply :: rest =>
    (m, reply) ::
      match (p.receive m reply).2 with
      | .settled _ => []
      | .pending n _ =>
        if p.last = some attempt then [] else p.processedFrom n (attempt + 1) rest

variable {p : Poll} {m n : JobMachine} {attempt : Nat}

/-- The machine lets every status pass, so that the verdict is the one on the status told. -/
theorem unguarded_follow (hm : m.isTerminal = false) (record : JobRecord) :
    (p.follow m record).map id Finding.unguarded =
      match record.jobStatus with
      | .error f => ([], Unguarded.failed f)
      | .ok status => ([p.statusEvent status record], Unguarded.verdict p record status) := by
  cases hstatus : record.jobStatus with
  | error f => simp only [follow, hstatus]; rfl
  | ok status =>
    simp only [follow, hstatus, JobMachine.observe_code hm]
    cases status <;> rfl

theorem unguarded_inspect (hm : m.isTerminal = false) (r : Response) :
    (p.inspect m r).map id Finding.unguarded = Unguarded.inspect p r := by
  rw [inspect, Unguarded.inspect]
  split
  · rfl
  split
  · rfl
  cases p.recordOf r with
  | error f => rfl
  | ok record => exact unguarded_follow hm record

theorem unguarded_receive (hm : m.isTerminal = false) (reply : Reply) :
    (p.receive m reply).map id Finding.unguarded = Unguarded.receive p reply := by
  rw [receive, Unguarded.receive]
  obtain ⟨actions, outcome⟩ := p.call.receive reply
  cases outcome with
  | error e => rfl
  | ok response =>
    simp only [← unguarded_inspect hm response]
    rfl

/-- A poll that goes on leaves the machine in a state that is not final. -/
theorem isTerminal_of_pending (hm : m.isTerminal = false) {reply : Reply} {actions : List Action}
    {record : JobRecord} (h : p.receive m reply = (actions, .pending n record)) :
    n.isTerminal = false := by
  obtain ⟨notes, -, ⟨outcome, -, hreceive⟩ | ⟨r, k, other, -, -, hk, hreceive⟩⟩ :=
    receive_cases (p := p) hm reply
  · cases hreceive.symm.trans h
  · cases hreceive.symm.trans h
    exact hk

/-- From any attempt on, the guarded run is the unguarded one. -/
theorem runFrom_eq_unguarded (hm : m.isTerminal = false) (attempt : Nat) (replies : List Reply) :
    p.runFrom m attempt replies = Unguarded.runFrom p attempt replies := by
  induction replies generalizing m attempt with
  | nil => rfl
  | cons reply rest ih =>
    rw [runFrom, Unguarded.runFrom, ← unguarded_receive hm reply]
    cases hreceive : p.receive m reply with
    | mk actions finding =>
      cases finding with
      | settled outcome => rfl
      | pending n record =>
        simp only [Prod.map, id, Finding.unguarded, ih (isTerminal_of_pending hm hreceive)]

/-- Whenever a reply is processed the machine stands in a state that is not final. -/
theorem isTerminal_of_mem_processedFrom (hm : m.isTerminal = false) {replies : List Reply}
    {reply : Reply} (h : (n, reply) ∈ p.processedFrom m attempt replies) :
    n.isTerminal = false := by
  induction replies generalizing m attempt with
  | nil => cases h
  | cons first rest ih =>
    rw [processedFrom] at h
    rcases List.mem_cons.1 h with heq | h
    · cases heq
      exact hm
    · cases hreceive : p.receive m first with
      | mk actions finding =>
        rw [hreceive] at h
        cases finding with
        | settled outcome => cases h
        | pending k record =>
          dsimp only at h
          split at h
          · cases h
          · exact ih (isTerminal_of_pending hm hreceive) h

/-- The replies that are processed are the ones that the run takes. -/
theorem processedFrom_append_left (m : JobMachine) (attempt : Nat) (replies : List Reply) :
    (p.processedFrom m attempt replies).map Prod.snd ++ (p.runFrom m attempt replies).left =
      replies := by
  induction replies generalizing m attempt with
  | nil => rfl
  | cons reply rest ih =>
    rw [processedFrom, runFrom]
    cases p.receive m reply with
    | mk actions finding =>
      cases finding with
      | settled outcome => rfl
      | pending n record =>
        dsimp only
        split
        · rfl
        · simp [Transcript.after, ih]

end Poll

namespace Polling

/-- Follows a job as before, but goes by the status of each record alone. -/
def followUnguarded (settings : Settings) (network jobId : Text) (given : Option Int) :
    SessionM JobRecord := do
  let ceiling := ceiling settings given
  if ceiling < 0 then SessionM.fault (.negativeCeiling ceiling)
  let root ← Network.addressOf (.text network) .publicApi (some settings)
  SessionM.log .info Poll.logger "poll.start" (startFields settings network jobId ceiling)
  let client ← SessionM.orFault (Client.create root settings)
  let poll ← SessionM.orFault (pollOf settings client jobId ceiling)
  SessionM.converse (Poll.Unguarded.runFrom poll 1)

/-- The machine never stops a poll. Whenever a reply is processed it stands in a state that is not
final, so that it lets pass whatever status the record tells, and takes it on; and following a job
without a machine is the same, with the same requests, sleeps, events and outcome. -/
theorem guard_never_fires (settings : Settings) (network jobId : Text) (given : Option Int)
    (s : Session) :
    Session.run (follow settings network jobId given) s =
        Session.run (followUnguarded settings network jobId given) s ∧
      ∀ (p : Poll) (replies : List Reply),
        (p.processedFrom {} 1 replies).map Prod.snd ++ (p.run replies).left = replies ∧
        ∀ m reply, (m, reply) ∈ p.processedFrom {} 1 replies → m.isTerminal = false ∧
          ∀ status : JobStatus, ∃ n, m.observe (.int status.code) = .ok n ∧
            n.status = status := by
  have hrun (p : Poll) : p.run = Poll.Unguarded.runFrom p 1 := by
    funext replies
    exact Poll.runFrom_eq_unguarded rfl 1 replies
  constructor
  · simp only [follow, followUnguarded, hrun]
  intro p replies
  refine ⟨Poll.processedFrom_append_left {} 1 replies, ?_⟩
  intro m reply hmem
  have hm : m.isTerminal = false := Poll.isTerminal_of_mem_processedFrom rfl hmem
  refine ⟨hm, ?_⟩
  intro status
  exact ⟨_, JobMachine.observe_code hm status, rfl⟩

end Polling

end ClassVerification
