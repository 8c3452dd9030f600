import ClassVerification.Proofs.Api.Request

/-! Sending one request: it is recorded, the next reply is used up, and the log is told of it. -/
namespace ClassVerification

/-- An action that only tells the log something. -/
def Action.IsLogged (a : Action) : Prop := ∃ e, a = .logged e

theorem Action.no_request_of_isLogged {notes : List Action} (h : ∀ a ∈ notes, a.IsLogged)
    (request : Request) : .requested request ∉ notes := by
  intro hmem
  obtain ⟨e, he⟩ := h _ hmem
  cases he

theorem Action.isLogged_inContext {context : Members Json} {notes : List Action}
    (h : ∀ a ∈ notes, a.IsLogged) : ∀ a ∈ notes.map (Action.inContext context), a.IsLogged := by
  intro a ha
  obtain ⟨b, hb, rfl⟩ := List.mem_map.1 ha
  obtain ⟨e, rfl⟩ := h b hb
  exact ⟨_, rfl⟩

/-- The session after a request: the next reply is used up. -/
def Session.sent (s : Session) (request : Request) : Session :=
  { s with replies := s.replies.tail, actions := s.actions ++ [.requested request] }

/-- Nothing is done to the outside between two sessions, but the log may be told something and the
fields that are bound may change. -/
def Session.Quiet (s t : Session) : Prop :=
  ∃ notes context, (∀ a ∈ notes, a.IsLogged) ∧ t = { s with context, actions := s.actions ++ notes }

/-- A conversation that begins with a request and goes on with nothing but notes. -/
theorem Session.afterTalk_of_sent {α : Type} {s : Session} {talk : Transcript α} {request : Request}
    {notes : List Action} (hactions : talk.actions = .requested request :: notes)
    (hleft : talk.left = s.replies.tail) : s.afterTalk talk = (s.sent request).record notes := by
  simp [afterTalk, record, sent, hactions, hleft]

namespace Session.Quiet

variable {s t u : Session} {notes : List Action}

theorem refl (s : Session) : s.Quiet s := ⟨[], s.context, by simp, by simp⟩

theorem here (h : s.Quiet t) : t.here = s.here := by
  obtain ⟨_, _, _, rfl⟩ := h
  rfl

theorem replies (h : s.Quiet t) : t.replies = s.replies := by
  obtain ⟨_, _, _, rfl⟩ := h
  rfl

theorem trans (h : s.Quiet t) (h' : t.Quiet u) : s.Quiet u := by
  obtain ⟨first, _, hfirst, rfl⟩ := h
  obtain ⟨second, context, hsecond, rfl⟩ := h'
  refine ⟨first ++ second, context, ?_, by simp⟩
  intro a ha
  exact (List.mem_append.1 ha).elim (hfirst a) (hsecond a)

theorem record (h : ∀ a ∈ notes, a.IsLogged) : s.Quiet (s.record notes) := by
  refine ⟨notes.map (Action.inContext s.context), s.context, Action.isLogged_inContext h, ?_⟩
  rw [← actions_record]
  rfl

theorem log {e : LogEvent} : s.Quiet (s.record [.logged e]) :=
  record (by simp [Action.IsLogged])

theorem ofContext (context : Members Json) : s.Quiet { s with context } :=
  ⟨[], context, by simp, by simp⟩

end Session.Quiet

namespace Call

variable {call : Call} {reply : Reply} {r : Response}

theorem isLogged_of_receive : ∀ a ∈ (call.receive reply).1, a.IsLogged := by
  cases reply with
  | broken reason => simp [receive, failed, Action.IsLogged]
  | refused fault => simp [receive]
  | response r =>
    simp only [receive]
    split
    · simp
    · split <;> simp [failed, answered, Action.IsLogged]

theorem eq_response_of_receive (h : (call.receive reply).2 = .ok r) : reply = .response r := by
  cases reply with
  | broken reason => simp [receive, transportFailure] at h
  | refused fault => simp [receive] at h
  | response other =>
    simp only [receive] at h
    split at h
    · cases h
    · split at h
      · cases h
      · cases h
      · cases h
        rfl

/-- A request takes one reply at most, and what it hands over is a response that came. -/
theorem exchange_cases (call : Call) (replies : List Reply) :
    ∃ notes, (∀ a ∈ notes, a.IsLogged) ∧
      (call.exchange replies).actions = .requested call.request :: notes ∧
      (call.exchange replies).left = replies.tail ∧
      ∀ r, (call.exchange replies).outcome = .ok r → replies.head? = some (.response r) := by
  cases replies with
  | nil => exact ⟨[], by simp, rfl, rfl, by simp [exchange]⟩
  | cons reply rest =>
    refine ⟨(call.receive reply).1, isLogged_of_receive, rfl, rfl, fun r hr => ?_⟩
    rw [eq_response_of_receive hr]
    rfl

end Call

namespace Client

variable {client : Client} {settings : Settings} {root parameter : Text} {e : Endpoint}
  {method : Method} {fields : List Multipart.FormField} {s t : Session}
  {outcome : Except Error (Call × Response)}

/-- Builds a request and sends it: the form that asking and posting share. -/
def send (c : Client) (method : Method) (e : Endpoint) (parameter : Text)
    (fields : List Multipart.FormField) : SessionM (Call × Response) := do
  let call ← SessionM.orFault (c.prepare method e parameter fields)
  return (call, ← SessionM.converse call.exchange)

theorem get_eq_send : client.get e parameter = client.send .get e parameter [] := rfl

theorem post_eq_send : client.post e parameter fields = client.send .post e parameter fields := rfl

/-- A request that is built is sent once, and its answer is handed over with it. -/
theorem run_send {call : Call}
    (hcall : client.prepare method e parameter fields = .ok call) (s : Session) :
    Session.run (client.send method e parameter fields) s =
      ((call.exchange s.replies).outcome.map (call, ·), s.afterTalk (call.exchange s.replies)) := by
  simp only [send, Session.run_bind, hcall, Session.run_orFault, Outcome.mapError_ok,
    Session.run_converse]
  cases (call.exchange s.replies).outcome <;> rfl

/-- Either the request cannot be built and nothing is done, or it is sent once. -/
theorem run_send_cases (hc : create root settings = .ok client)
    (h : Session.run (client.send method e parameter fields) s = (outcome, t)) :
    (∃ f, outcome = .error (.fault f) ∧ t = s) ∨
      ∃ call notes, call.IsFor method (e.address root parameter) ∧
        (fields ≠ [] → call.request.Carries fields) ∧
        (∀ a ∈ notes, a.IsLogged) ∧ t = (s.sent call.request).record notes ∧
        ∀ other r, outcome = .ok (other, r) →
          other = call ∧ s.replies.head? = some (.response r) := by
  cases hcall : client.prepare method e parameter fields with
  | error f =>
    simp only [send, hcall, Session.run_bind, Session.run_orFault, Outcome.mapError_error] at h
    cases h
    exact Or.inl ⟨f, rfl, rfl⟩
  | ok call =>
    obtain ⟨hfor, hcarries⟩ := prepare_eq_ok hc hcall
    obtain ⟨notes, hnotes, hactions, hleft, hresponse⟩ := call.exchange_cases s.replies
    simp only [send, hcall, Session.run_bind, Session.run_orFault, Outcome.mapError_ok,
      Session.run_converse, Session.run_pure, Session.afterTalk_of_sent hactions hleft] at h
    refine Or.inr ⟨call, notes, hfor, hcarries, hnotes, ?_⟩
    cases hout : (call.exchange s.replies).outcome with
    | error e =>
      rw [hout] at h
      obtain ⟨rfl, rfl⟩ := Prod.mk.inj h
      exact ⟨rfl, by simp⟩
    | ok r =>
      rw [hout] at h
      obtain ⟨rfl, rfl⟩ := Prod.mk.inj h
      refine ⟨rfl, fun other r' heq => ?_⟩
      cases heq
      exact ⟨rfl, hresponse r hout⟩

/-- Work that begins with a request does nothing, or ends at it, or goes on with a response that
came. -/
theorem run_send_bind_cases {α : Type} {next : Call × Response → SessionM α}
    {outcome : Except Error α} (hc : create root settings = .ok client)
    (h : Session.run (client.send method e parameter fields >>= next) s = (outcome, t)) :
    (∃ e, outcome = .error e ∧ t = s) ∨
      ∃ call u, call.IsFor method (e.address root parameter) ∧
        (fields ≠ [] → call.request.Carries fields) ∧
        (s.sent call.request).Quiet u ∧
        ((∃ e, outcome = .error e ∧ t = u) ∨
          ∃ r, s.replies.head? = some (.response r) ∧
            Session.run (next (call, r)) u = (outcome, t)) := by
  rcases Session.run_bind_cases h with ⟨e, hsend, rfl⟩ | ⟨⟨other, r⟩, u, hsend, h⟩
  · rcases run_send_cases hc hsend with ⟨f, -, rfl⟩ | ⟨call, notes, hfor, hcarries, hnotes, rfl, -⟩
    · exact Or.inl ⟨e, rfl, rfl⟩
    · exact Or.inr ⟨call, _, hfor, hcarries, .record hnotes, Or.inl ⟨e, rfl, rfl⟩⟩
  · rcases run_send_cases hc hsend with
        ⟨f, hf, -⟩ | ⟨call, notes, hfor, hcarries, hnotes, rfl, hreply⟩
    · cases hf
    · obtain ⟨rfl, hhead⟩ := hreply _ _ rfl
      exact Or.inr ⟨_, _, hfor, hcarries, .record hnotes, Or.inr ⟨r, hhead, h⟩⟩

end Client

end ClassVerification
