import ClassVerification.Api.Client
import ClassVerification.JobRecord
import ClassVerification.Network.Address
import ClassVerification.Submission

/-!
Submitting a class for verification, and asking whether a class is known. Each sends one request;
what the answer means hangs on its status and on the shape of its body.
-/

namespace ClassVerification.Dispatch

def logger : Text := "voyager_verifier.services.dispatch_service"

/-- What every event of a submission tells. -/
def subject (network address : Text) : Members Json :=
  [("network", .text network), ("address", .text address)]

def submitting (network address : Text) (s : Submission) (fileCount : Nat) : Members Json :=
  let subject := subject network address
  (((subject.add "name" (.text s.name)).add
    "compiler_version" (.text s.metadata.cairoVersion)).add
    "scarb_version" (.text s.metadata.scarbVersion)).add
    "file_count" (.int fileCount)

/-- What an answer to a submission comes to: events, and the job id or an error. -/
abbrev Decision := List Action × Except Error Text

def event (level : LogLevel) (name : Text) (fields : Members Json) : Action :=
  .logged ⟨level, logger, name, fields⟩

def context : Text := "Failed to dispatch verification job"

/-- A submission that was taken: the body holds the job id. -/
def accepted (network address : Text) (url : Url) (r : Response) : Decision :=
  match r.parse url with
  | .error e => ([], .error e)
  | .ok value =>
    match receiptOf value with
    | .error _ =>
      ([], .error (r.report fun t =>
        .malformedAnswer ("Unexpected dispatch response shape: " ++ Response.excerpt t)))
    | .ok jobId =>
      ([event .info "dispatch.accepted" ((subject network address).add "job_id" (.text jobId))],
        .ok jobId)

/-- A submission that was rejected: the body holds the reason. -/
def rejected (network address : Text) (url : Url) (r : Response) : Decision :=
  match r.parse url with
  | .error e => ([], .error e)
  | .ok value =>
    match rejectionOf value with
    | .error _ => ([], .error (r.report (.unexpectedResponse context 400)))
    | .ok reason =>
      ([event .warning "dispatch.rejected" ((subject network address).add "error" (.text reason))],
        .error (.failure (.badRequest reason)))

/-- The decision on an answer, by its status. -/
def decide (network address : Text) (url : Url) (r : Response) : Decision :=
  if r.status = 200 then accepted network address url r
  else if r.status = 404 then
    ([event .warning "dispatch.not_found" (subject network address)],
      .error (.failure (.jobNotFound address)))
  else if r.status = 400 then rejected network address url r
  else
    ([event .error "dispatch.unexpected_status"
        ((subject network address).add "status" (.int r.status))],
      .error (r.report (.unexpectedResponse context r.status)))

/-- Submits a class to a network and returns the job id. All files are read before the request is
sent. -/
def submit (settings : Settings) (network address : Text) (s : Submission) : SessionM Text := do
  let root ← Network.addressOf (.text network) .publicApi (some settings)
  let fields ← SessionM.ofExcept (s.formFields (← get))
  SessionM.log .info logger "dispatch.submitting"
    (submitting network address s (fields.length - s.metadataFields.length))
  let client ← SessionM.orFault (Client.create root settings)
  let (call, response) ← client.post .verifyClass address fields
  let (events, outcome) := decide network address call.request.url response
  SessionM.record events
  SessionM.ofExcept outcome

/-- Whether a network knows a class: yes for an answer of 200, no for 404. -/
def classExists (settings : Settings) (network classHash : Text) : SessionM Bool := do
  let root ← Network.addressOf (.text network) .internalApi (some settings)
  let client ← SessionM.orFault (Client.create root settings)
  let (_, response) ← client.get .getClass classHash
  if response.status = 200 then return true
  else if response.status = 404 then return false
  else
    SessionM.ofExcept (.error (response.report (.unexpectedResponse
      ("Unexpected response when looking up class " ++ classHash) response.status)))

end ClassVerification.Dispatch
