import ClassVerification.Proofs.Api.Sound

/-! Resources of a network that a request can be sent to. -/
namespace ClassVerification.Network

/-- The fixed roots of the networks are in visible letters, and each names its host. -/
theorem exists_reads {n : Network} {i : Interface} {settings : Settings} {root : Text}
    (hn : n ≠ .custom) (h : rootOf n.name i settings = .ok root) :
    ∃ (r : RootAddress) (host : Text) (port : Option Int), r.text = root ∧ r.Reads host port := by
  cases n with
  | custom => exact (hn rfl).elim
  | mainnet =>
    cases i with
    | internalApi =>
      obtain rfl : Text.ofString "https://voyager.online" = root := Except.ok.inj h
      exact ⟨⟨"https", "voyager.online", [], rfl, by decide, rfl, by decide, rfl, by decide,
        by decide⟩, "voyager.online", none, rfl, by decide, rfl, rfl, rfl, by decide, rfl⟩
    | publicApi =>
      obtain rfl : Text.ofString "https://api.voyager.online/beta" = root := Except.ok.inj h
      exact ⟨⟨"https", "api.voyager.online", "/beta", rfl, by decide, rfl, by decide, rfl,
        by decide, by decide⟩, "api.voyager.online", none, rfl, by decide, rfl, rfl, rfl,
        by decide, rfl⟩
  | sepolia =>
    cases i with
    | internalApi =>
      obtain rfl : Text.ofString "https://sepolia.voyager.online" = root := Except.ok.inj h
      exact ⟨⟨"https", "sepolia.voyager.online", [], rfl, by decide, rfl, by decide, rfl,
        by decide, by decide⟩, "sepolia.voyager.online", none, rfl, by decide, rfl, rfl, rfl,
        by decide, rfl⟩
    | publicApi =>
      obtain rfl : Text.ofString "https://sepolia-api.voyager.online/beta" = root :=
        Except.ok.inj h
      exact ⟨⟨"https", "sepolia-api.voyager.online", "/beta", rfl, by decide, rfl, by decide, rfl,
        by decide, by decide⟩, "sepolia-api.voyager.online", none, rfl, by decide, rfl, rfl, rfl,
        by decide, rfl⟩
  | localhost =>
    cases i with
    | internalApi =>
      obtain rfl : Text.ofString "http://localhost:8899" = root := Except.ok.inj h
      exact ⟨⟨"http", "localhost:8899", [], rfl, by decide, rfl, by decide, rfl, by decide,
        by decide⟩, "localhost", some 8899, rfl, by decide, rfl, rfl, rfl, by decide, rfl⟩
    | publicApi =>
      obtain rfl : Text.ofString "http://localhost:30380" = root := Except.ok.inj h
      exact ⟨⟨"http", "localhost:30380", [], rfl, by decide, rfl, by decide, rfl, by decide,
        by decide⟩, "localhost", some 30380, rfl, by decide, rfl, rfl, rfl, by decide, rfl⟩

/-- The address of a resource of a network can be sent to: the parameter can be written, the address
is not too long, and the custom root makes an address of it. -/
structure Reaches (network : Network) (settings : Settings) (i : Interface) (e : Endpoint)
    (parameter : Text) : Prop where
  scalar : parameter.IsScalar
  short : ∀ root, rootOf network.name i settings = .ok root →
    (e.address root parameter).length ≤ Url.lengthLimit
  custom : network = .custom → ∀ root, rootOf network.name i settings = .ok root →
    Url.IsSendable (e.address root parameter)

variable {network : Network} {settings : Settings} {i : Interface} {e : Endpoint}
  {parameter root : Text}

theorem Reaches.isSendable (h : network.Reaches settings i e parameter)
    (hroot : rootOf network.name i settings = .ok root) :
    Url.IsSendable (e.address root parameter) := by
  by_cases hcustom : network = .custom
  · exact h.custom hcustom root hroot
  · have hshort := h.short root hroot
    obtain ⟨r, host, port, rfl, hreads⟩ := exists_reads hcustom hroot
    exact RootAddress.isSendable_address h.scalar hreads hshort

theorem isDeclared_rootOf (network : Network) (i : Interface) (settings : Settings) :
    Outcome.IsDeclared (rootOf network.name i settings) := by
  rw [rootOf, ofName?_name]
  exact Outcome.isDeclared_mapError _

/-- A resource of a network that can be asked for, and whatever reply comes, it can be taken as one
to a request for the address of the resource. -/
structure Serves (network : Network) (settings : Settings) (i : Interface) (e : Endpoint)
    (parameter : Text) (replies : List Reply) : Prop extends
    network.Reaches settings i e parameter where
  sound : ∀ root u, rootOf network.name i settings = .ok root →
    Url.target (e.address root parameter) = .ok u → ∀ reply ∈ replies, reply.IsSound u

theorem Serves.mono {replies left : List Reply}
    (h : network.Serves settings i e parameter replies) (hleft : left ⊆ replies) :
    network.Serves settings i e parameter left where
  toReaches := h.toReaches
  sound root u hroot hu reply hreply := h.sound root u hroot hu reply (hleft hreply)

/-- So its request can be built, with any form that can be written, and any reply can be taken. -/
theorem Serves.exists_call {replies : List Reply}
    (h : network.Serves settings i e parameter replies) (method : Method)
    {fields : List Multipart.FormField} (hkey : ∀ c ∈ settings.apiKey, c.isAscii)
    (hroot : rootOf network.name i settings = .ok root)
    (hfields : ∀ field ∈ fields, field.1.IsScalar ∧ field.2.IsScalar) :
    ∃ client call, Client.create root settings = .ok client ∧
      client.prepare method e parameter fields = .ok call ∧ call.IsSound ∧
      ∀ reply ∈ replies, reply.IsSound call.request.url := by
  obtain ⟨client, hclient, hopen⟩ := Client.exists_create hkey root
  obtain ⟨call, hcall, hsound⟩ := Client.exists_prepare hclient hopen h.scalar
    (h.isSendable hroot) hfields
  have hfor := (Client.prepare_eq_ok hclient hcall).1
  exact ⟨client, call, hclient, hcall, hsound, h.sound root _ hroot hfor.target⟩

end ClassVerification.Network
