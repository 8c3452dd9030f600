import ClassVerification.Api.Charset
import ClassVerification.Api.Coding
import ClassVerification.Json.Decode
import ClassVerification.Session
import ClassVerification.Url.Redirect

/-!
What comes back for a request, and what a response says: its text in the character set that it
names, its JSON, and where it sends the client.
-/

namespace ClassVerification

/-- The reply that status, headers and body make. Headers have to be ASCII, and the codings of the
body are undone. -/
def Reply.ofParts (status : Int) (headers : Members Text) (body : List UInt8) : Reply :=
  match Header.check headers with
  | .error flaw => .refused (.unencodable .ascii flaw)
  | .ok () =>
    match Coding.decodeAll (Coding.ofHeaders headers) body with
    | .error flaw => .broken flaw.message
    | .ok body => .response { status, headers, body }

namespace Response

/-- The character set that the response names, UTF-8 if it names none that there is. -/
def charset (r : Response) : Except CharsetDefect Charset :=
  match Header.value? r.headers "content-type" with
  | none => .ok (.utf8 false)
  | some value => (Charset.ofContentType value).map (·.getD (.utf8 false))

/-- What the body says. A body that is not empty may not be readable by the character set that the
response names. -/
def text (r : Response) : Except Fault Text :=
  if r.body.isEmpty then .ok []
  else match r.charset with
    | .error defect => .error (.unreadable defect)
    | .ok charset => (charset.decode r.foreign r.body).mapError .unreadable

/-- The failure that shows what a response says, or the fault that it cannot be read. -/
def report (r : Response) (failure : Text → Failure) : Error :=
  match r.text with
  | .ok t => .failure (failure t)
  | .error fault => .fault fault

/-- How much of a text is shown in a message. -/
def excerpt (t : Text) : Text := t.take 200

def json? (r : Response) : Option Json := Json.ofBytes? r.body

/-- The JSON of a response to a request for an address. -/
def parse (r : Response) (url : Url) : Except Error Json :=
  match r.json? with
  | some value => .ok value
  | none =>
    .error (r.report fun t => .malformedAnswer ("Unparseable response body from " ++ url.text ++
      " (status " ++ Text.ofInt r.status ++ "): " ++ excerpt t))

/-- The place that the response sends the client to. -/
def location? (r : Response) : Option Text :=
  if [301, 302, 303, 307, 308].contains r.status then Header.value? r.headers "location" else none

/-- Why a redirect cannot be taken: its location is no address, or no address comes of it. -/
inductive BadRedirect where
  | location (reason : Text)
  | fault (f : Fault)
deriving Repr

/-- Checks the place that a response to a request for an address sends the client to. -/
def checkRedirect (r : Response) (url : Url) : Except BadRedirect Unit :=
  match r.location?.map Url.ofText with
  | none => .ok ()
  | some (.ok location) => (url.checkRedirect location).mapError .fault
  | some (.error (.invalidUrl reason)) =>
    .error (.location ("Invalid URL in location header: " ++ reason ++ "."))
  | some (.error f) => .error (.fault f)

end Response

end ClassVerification
