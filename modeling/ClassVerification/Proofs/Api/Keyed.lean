import ClassVerification.Proofs.Api.Exchange
import ClassVerification.Proofs.Session.Effect

/-! A key goes from the settings through the client into the header of each request, and no
further. -/
namespace ClassVerification

variable {flaw : Option Unencodable} {key : Text}

theorem Action.map_carrying_of_isLogged {notes : List Action} (h : ∀ a ∈ notes, a.IsLogged) :
    notes.map (Action.carrying key) = notes :=
  map_carrying_of_no_request (no_request_of_isLogged h) key

namespace Call

/-- The same call with a key. -/
def carrying (key : Text) (call : Call) : Call :=
  { call with request := call.request.carrying key }

/-- A reply is taken alike with each key. -/
theorem receive_carrying (call : Call) (reply : Reply) :
    (call.carrying key).receive reply = call.receive reply := by
  cases reply <;> rfl

theorem exchange_carrying (call : Call) (replies : List Reply) :
    (call.carrying key).exchange replies =
      { call.exchange replies with
        actions := (call.exchange replies).actions.map (Action.carrying key) } := by
  cases replies with
  | nil => rfl
  | cons reply rest =>
    simp only [exchange, receive_carrying, List.map_cons,
      Action.map_carrying_of_isLogged isLogged_of_receive]
    rfl

end Call

namespace Client

/-- The same client with a key. -/
def carrying (key : Text) (client : Client) : Client :=
  { client with apiKey := if key.isEmpty then none else some key }

/-- A client is built alike for all keys with the same flaw, but for the key that it holds. -/
theorem forwards_create (root : Text) (settings : Settings) :
    SessionM.Forwards flaw carrying fun key =>
      SessionM.orFault (create root { settings with apiKey := key }) := by
  let keyless : Client := ⟨root.dropTrailing (· = .char '/'), settings.httpTimeout, none, true⟩
  refine SessionM.forwards_orFault
    (flaw.elim (.ok keyless) fun flaw => .error (.unencodable .ascii flaw)) fun key hkey => ?_
  have hfind : Unencodable.find CodePoint.isAscii 0 key = flaw := hkey
  simp only [create_eq, hfind]
  cases flaw <;> rfl

theorem prepare_carrying (client : Client) (method : Method) (e : Endpoint) (parameter : Text)
    (fields : List Multipart.FormField) :
    (client.carrying key).prepare method e parameter fields =
      (client.prepare method e parameter fields).map (Call.carrying key) := by
  simp only [prepare, Outcome.map_bind, apply_ite (Except.map (Call.carrying key))]
  rfl

/-- What is sent and what comes back is alike with each key, but for the header of the request. -/
theorem forwards_send (client : Client) (method : Method) (e : Endpoint) (parameter : Text)
    (fields : List Multipart.FormField) :
    SessionM.Forwards flaw (fun key => Prod.map (Call.carrying key) id)
      fun key => (client.carrying key).send method e parameter fields := by
  refine SessionM.Forwards.bind
    (SessionM.forwards_orFault (client.prepare method e parameter fields)
      fun key _ => prepare_carrying client method e parameter fields) fun call => ?_
  refine SessionM.Forwards.bind
    (SessionM.isBlind_converse call.exchange fun key => call.exchange_carrying) fun r => ?_
  exact SessionM.forwards_of_run_eq (.ok (call, r)) fun _ _ _ => rfl

end Client

end ClassVerification
