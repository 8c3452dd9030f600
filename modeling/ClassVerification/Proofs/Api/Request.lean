import ClassVerification.Network.Address
import ClassVerification.Proofs.Multipart.Spelled
import ClassVerification.Proofs.Outcome
import ClassVerification.Proofs.Session.Run

/-! Where a request goes: the root address of a network, and the address of a resource below it. -/
namespace ClassVerification

/-- The root address that a network of a name has for an interface, or why it has none. -/
def Network.rootOf (network : Text) (i : Network.Interface) (settings : Settings) :
    Except Error Text :=
  match Network.ofName? network with
  | none => .error (.fault (.notANetwork (.text network)))
  | some n => (n.requireAddress i settings).mapError .failure

/-- An address is looked up in the given settings; nothing else is touched. -/
@[simp]
theorem Session.run_addressOf (network : Text) (i : Network.Interface) (settings : Settings)
    (s : Session) :
    run (Network.addressOf (.text network) i (some settings)) s =
      (Network.rootOf network i settings, s) := by
  have hpair : run (Network.addressesOf (.text network) (some settings)) s =
      match Network.ofName? network with
      | none => (.error (.fault (.notANetwork (.text network))), s)
      | some n => (.ok (n.addresses settings), s) := by
    cases hn : Network.ofName? network with
    | none => simp [Network.addressesOf, run_bind, Network.ofJson, hn]
    | some n =>
      cases n <;> simp [Network.addressesOf, run_bind, Network.ofJson, hn,
        Network.addresses, Network.fixedAddresses?, Settings.orCurrent]
  cases hn : Network.ofName? network with
  | none => simp [Network.addressOf, run_bind, hpair, Network.rootOf, hn]
  | some n =>
    simp only [Network.addressOf, run_bind, hpair, hn, Network.rootOf, Network.requireAddress,
      Network.ofJson, run_orFault, Outcome.mapError_ok]
    split <;> rfl

/-- The address of a resource as it is written: slashes at the end of the root do not count, and the
parameter is one segment, percent-encoded. -/
def Endpoint.address (e : Endpoint) (root parameter : Text) : Text :=
  root.dropTrailing (· = .char '/') ++
    (e.stem ++ parameter.flatMap (Percent.encodeOne Percent.isUnreserved))

/-- A call for an address: its request is sent to the normal form of it. -/
structure Call.IsFor (call : Call) (method : Method) (address : Text) : Prop where
  method : call.request.method = method
  written : call.written = address
  target : Url.target address = .ok call.request.url

theorem Call.IsFor.self {call : Call} {method : Method} {address : Text}
    (h : call.IsFor method address) : call.IsFor method call.written :=
  h.written.symm ▸ h

namespace Client

variable {client : Client} {settings : Settings} {root parameter : Text} {e : Endpoint}
  {method : Method} {fields : List Multipart.FormField} {call : Call}

theorem root_of_create (h : create root settings = .ok client) :
    client.root = root.dropTrailing (· = .char '/') := by
  rw [create_eq] at h
  split at h
  · cases h
  · cases h
    rfl

theorem urlFor_eq_ok (hc : create root settings = .ok client) {written : Text}
    (h : client.urlFor e parameter = .ok written) : written = e.address root parameter := by
  simp only [urlFor, Endpoint.path, Percent.encodeSegment] at h
  split at h
  · next segment hsegment =>
    split at hsegment
    · cases hsegment
    · cases hsegment
      cases h
      simp [Endpoint.address, root_of_create hc]
  · cases h

theorem utf8_eq_ok_iff {α : Type} {x : Except Unencodable α} {a : α} :
    utf8 x = .ok a ↔ x = .ok a := by
  cases x <;> simp [utf8]

/-- A request that can be built is one for the resource, and it carries a form that is not empty. -/
theorem prepare_eq_ok (hc : create root settings = .ok client)
    (h : client.prepare method e parameter fields = .ok call) :
    call.IsFor method (e.address root parameter) ∧
      (fields ≠ [] → call.request.Carries fields) := by
  simp only [prepare, Outcome.bind_eq_ok_iff] at h
  obtain ⟨_, _, written, hw, url, hu, _, _, _, _, h⟩ := h
  obtain rfl := urlFor_eq_ok hc hw
  split at h
  · simp [bind, Except.bind] at h
  · cases h
    have htype : Multipart.contentType boundary =
        Text.ofString "multipart/form-data; boundary=BOUNDARY" := rfl
    refine ⟨⟨rfl, rfl, hu⟩, fun hne => ⟨?_, Multipart.spells_iff.2 ?_⟩⟩
    · simp [hne, htype]
    · simp [hne]

end Client

end ClassVerification
