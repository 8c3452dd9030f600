import ClassVerification.Api.Endpoint
import ClassVerification.Api.Reply
import ClassVerification.Multipart

/-!
The client of the service: it builds a request, sends it once and takes the reply that comes.
-/

namespace ClassVerification

/-- A client bound to one root address. -/
structure Client where
  root : Text
  timeout : Binary64
  apiKey : Option Text
  isOpen : Bool := true
deriving DecidableEq, Repr

/-- A piece of conversation with the service: what was done, how it ended, and the replies that
were not used. -/
structure Transcript (α : Type) where
  actions : List Action
  outcome : Except Error α
  left : List Reply

namespace Transcript

/-- The same conversation with actions in front. -/
def after {α : Type} (actions : List Action) (t : Transcript α) : Transcript α :=
  { t with actions := actions ++ t.actions }

end Transcript

/-- Takes part in a conversation with the replies that are left. -/
def SessionM.converse {α : Type} (talk : List Reply → Transcript α) : SessionM α := do
  let t := talk (← get).replies
  modify fun s => { s with replies := t.left }
  SessionM.record t.actions
  SessionM.ofExcept t.outcome

/-- A request, and the address as it was written before it took its normal form. -/
structure Call where
  request : Request
  written : Text
deriving DecidableEq, Repr

namespace Call

def logger : Text := "voyager_verifier.infrastructure.api_client"

def target (c : Call) : Members Json :=
  [("method", .text c.request.method.name), ("url", .text c.written)]

def answered (c : Call) (status : Int) : Action :=
  .logged ⟨.debug, logger, "api.response", c.target.add "status" (.int status)⟩

def failed (c : Call) (reason : Text) : Action :=
  .logged ⟨.warning, logger, "api.request_failed", c.target.add "error" (.text reason)⟩

def transportFailure (c : Call) (reason : Text) : Error :=
  .failure (.transport c.written reason)

/-- What happens when a reply comes to a request that has been sent. -/
def receive (c : Call) : Reply → List Action × Except Error Response
  | .broken reason => ([c.failed reason], .error (c.transportFailure reason))
  | .refused fault => ([], .error (.fault fault))
  | .response r =>
    if !c.request.url.isAbsolute then
      ([], .error (.fault (.relativeUrl c.request.url.text)))
    else match r.checkRedirect c.request.url with
      | .error (.location reason) => ([c.failed reason], .error (c.transportFailure reason))
      | .error (.fault f) => ([], .error (.fault f))
      | .ok () => ([c.answered r.status], .ok r)

/-- Sends a request once. -/
def exchange (c : Call) : List Reply → Transcript Response
  | [] => ⟨[.requested c.request], .error (.fault .noReplyLeft), []⟩
  | reply :: rest =>
    let (actions, outcome) := c.receive reply
    ⟨.requested c.request :: actions, outcome, rest⟩

end Call

namespace Client

/-- What parts the parts of a form; it occurs in no part. -/
def boundary : Text := "BOUNDARY"

/-- A client for a root address, whose slashes at the end do not count. The header with the key has
to be ASCII. -/
def create (root : Text) (settings : Settings) : Except Fault Client :=
  match Header.check settings.apiHeaders with
  | .error flaw => .error (.unencodable .ascii flaw)
  | .ok () =>
    .ok {
      root := root.dropTrailing (· = .char '/')
      timeout := settings.httpTimeout
      apiKey := settings.apiHeaders.get? "x-api-key" }

/-- The key is all that can be wrong with the header, and all that a client takes from it. -/
theorem create_eq (root : Text) (settings : Settings) :
    create root settings =
      match Unencodable.find CodePoint.isAscii 0 settings.apiKey with
      | some flaw => .error (.unencodable .ascii flaw)
      | none => .ok {
          root := root.dropTrailing (· = .char '/')
          timeout := settings.httpTimeout
          apiKey := if settings.apiKey.isEmpty then none else some settings.apiKey } := by
  have hname : Unencodable.find CodePoint.isAscii 0 "x-api-key" = none := rfl
  cases hkey : settings.apiKey with
  | nil => simp [create, Settings.apiHeaders, hkey, Header.check, Members.get?, Unencodable.find]
  | cons c rest =>
    have hheaders : settings.apiHeaders = [(Text.ofString "x-api-key", c :: rest)] := by
      simp [Settings.apiHeaders, hkey]
    simp only [create, hheaders, Header.check, Members.get?, List.findSome?_cons, hname]
    cases Unencodable.find CodePoint.isAscii 0 (c :: rest) <;> simp

def close (c : Client) : Client := { c with isOpen := false }

/-- The address of a resource, as it is written. -/
def urlFor (c : Client) (endpoint : Endpoint) (parameter : Text) : Except Fault Text :=
  (endpoint.path parameter).map (c.root ++ ·)

def utf8 {α : Type} : Except Unencodable α → Except Fault α
  | .ok a => .ok a
  | .error flaw => .error (.unencodable .utf8 flaw)

/-- A request that is ready to be sent. The body is that of a form with the given fields; without
fields there is none. -/
def prepare (c : Client) (method : Method) (endpoint : Endpoint) (parameter : Text)
    (fields : List Multipart.FormField) : Except Fault Call := do
  utf8 (Multipart.checkAll (fields.map (·.2)))
  let written ← c.urlFor endpoint parameter
  let url ← Url.target written
  utf8 (Multipart.checkAll (fields.map fun field => Multipart.nameParameter field.1))
  url.checkHost
  if !c.isOpen then .error .clientClosed
  let isForm := !fields.isEmpty
  return {
    request := {
      method, url
      contentType := if isForm then some (Multipart.contentType boundary) else none
      body := if isForm then Multipart.body boundary fields else []
      apiKey := c.apiKey
      timeout := c.timeout }
    written }

/-- Asks for a resource. -/
def get (c : Client) (endpoint : Endpoint) (parameter : Text) : SessionM (Call × Response) := do
  let call ← SessionM.orFault (c.prepare .get endpoint parameter [])
  return (call, ← SessionM.converse call.exchange)

/-- Sends a form to a resource. -/
def post (c : Client) (endpoint : Endpoint) (parameter : Text)
    (fields : List Multipart.FormField) : SessionM (Call × Response) := do
  let call ← SessionM.orFault (c.prepare .post endpoint parameter fields)
  return (call, ← SessionM.converse call.exchange)

end Client

end ClassVerification
