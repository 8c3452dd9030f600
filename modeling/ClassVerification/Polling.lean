import ClassVerification.Api.Client
import ClassVerification.JobMachine
import ClassVerification.JobRecord
import ClassVerification.Network.Address

/-!
Following a job until it reaches a final status. Each poll is one request; while the job is pending
the poller waits and asks again, up to a ceiling if there is one.
-/

namespace ClassVerification

/-- What one poll is made of, the same for all polls of a job. -/
structure Poll where
  jobId : Text
  call : Call
  interval : Binary64
  /-- The number of the poll after which a pending job is given up. -/
  last : Option Nat
deriving DecidableEq, Repr

namespace Poll

def logger : Text := "voyager_verifier.services.polling_service"

/-- The description of a failed job that tells none. -/
def unknownFailure : Text := "unknown failure"

/-- What a poll finds: a job that is still pending, or the end of the matter. -/
inductive Finding where
  | pending (machine : JobMachine) (record : JobRecord)
  | settled (outcome : Except Error JobRecord)

def failed (f : Failure) : Finding := .settled (.error (.failure f))

/-- The description in a record, if it tells something. -/
def description (r : JobRecord) : Text :=
  match r.statusDescription with
  | none => unknownFailure
  | some t => if t.isEmpty then unknownFailure else t

/-- What a record comes to whose job has a status. -/
def verdict (p : Poll) (m : JobMachine) (r : JobRecord) : Finding :=
  match m.status with
  | .succeeded => .settled (.ok r)
  | .compileFailed => failed (.compilationFailed p.jobId (description r))
  | .failed => failed (.jobFailed p.jobId (description r) Failure.failedToVerify)
  | .submitted | .compiled => .pending m r

def statusEvent (p : Poll) (status : JobStatus) (r : JobRecord) : Action :=
  .logged ⟨.info, logger, "poll.status", [
    ("job_id", .text p.jobId),
    ("status", .text status.label),
    ("description", r.statusDescription.elim .null .text)]⟩

/-- What a record with a readable status comes to. -/
def follow (p : Poll) (m : JobMachine) (r : JobRecord) : List Action × Finding :=
  match r.jobStatus with
  | .error f => ([], failed f)
  | .ok status =>
    match m.observe (.int status.code) with
    | .error fault => ([], .settled (.error (.fault fault)))
    | .ok m => ([p.statusEvent m.status r], p.verdict m r)

/-- The record in the body of a response. -/
def recordOf (p : Poll) (r : Response) : Except Error JobRecord :=
  match r.parse p.call.request.url with
  | .error e => .error e
  | .ok value =>
    match JobRecord.ofJson value with
    | .ok record => .ok record
    | .error _ =>
      .error (r.report fun t =>
        .malformedAnswer ("Malformed job record: " ++ Response.excerpt t))

/-- What a response comes to. -/
def inspect (p : Poll) (m : JobMachine) (r : Response) : List Action × Finding :=
  if r.status = 404 then ([], failed (.jobNotFound p.jobId))
  else if r.status != 200 then
    ([], .settled (.error
      (r.report (.unexpectedResponse "Unexpected response while polling job" r.status))))
  else match p.recordOf r with
    | .error e => ([], .settled (.error e))
    | .ok record => p.follow m record

/-- What a reply comes to, the request included. -/
def receive (p : Poll) (m : JobMachine) (reply : Reply) : List Action × Finding :=
  let (actions, outcome) := p.call.receive reply
  let actions := .requested p.call.request :: actions
  match outcome with
  | .error e => (actions, .settled (.error e))
  | .ok response =>
    let (events, finding) := p.inspect m response
    (actions ++ events, finding)

def waiting (p : Poll) (attempt : Nat) (r : JobRecord) : List Action := [
  .logged ⟨.debug, logger, "poll.waiting", [
    ("job_id", .text r.jobId),
    ("retries", .int attempt),
    ("sleep_seconds", .float p.interval)]⟩,
  .slept p.interval]

def givingUp (p : Poll) (attempt : Nat) : Action :=
  .logged ⟨.warning, logger, "poll.timeout", [
    ("job_id", .text p.jobId),
    ("attempts", .int attempt)]⟩

/-- Polls from an attempt on. -/
def runFrom (p : Poll) (m : JobMachine) (attempt : Nat) : List Reply → Transcript JobRecord
  | [] => ⟨[.requested p.call.request], .error (.fault .noReplyLeft), []⟩
  | reply :: rest =>
    match p.receive m reply with
    | (actions, .settled outcome) => ⟨actions, outcome, rest⟩
    | (actions, .pending m record) =>
      if p.last = some attempt then
        ⟨actions ++ [p.givingUp attempt], .error (.failure (.timedOut p.jobId attempt)), rest⟩
      else (p.runFrom m (attempt + 1) rest).after (actions ++ p.waiting attempt record)

/-- Polls a job that has just been submitted. -/
def run (p : Poll) : List Reply → Transcript JobRecord := p.runFrom {} 1

end Poll

namespace Polling

/-- The ceiling that holds: the one given, or else that of the settings. -/
def ceiling (settings : Settings) (given : Option Int) : Int :=
  given.getD settings.defaultCeiling

def startFields (settings : Settings) (network jobId : Text) (ceiling : Int) : Members Json := [
  ("network", .text network),
  ("job_id", .text jobId),
  ("max_retries", if settings.usePollingCeiling then .int ceiling else .null)]

/-- The polls of a job through a client. -/
def pollOf (settings : Settings) (client : Client) (jobId : Text) (ceiling : Int) :
    Except Fault Poll :=
  (client.prepare .get .getJobStatus jobId []).map fun call =>
    { jobId, call
      interval := settings.pollingInterval
      last := if settings.usePollingCeiling then some (ceiling.toNat + 1) else none }

/-- Follows a job on a network and returns its record when it has succeeded. -/
def follow (settings : Settings) (network jobId : Text) (given : Option Int) :
    SessionM JobRecord := do
  let ceiling := ceiling settings given
  if ceiling < 0 then SessionM.fault (.negativeCeiling ceiling)
  let root ← Network.addressOf (.text network) .publicApi (some settings)
  SessionM.log .info Poll.logger "poll.start" (startFields settings network jobId ceiling)
  let client ← SessionM.orFault (Client.create root settings)
  let poll ← SessionM.orFault (pollOf settings client jobId ceiling)
  SessionM.converse poll.run

end Polling

end ClassVerification
