import ClassVerification.Proofs.Session.Offline

/-! What work does apart from what is bound in the log and from what has been done before it; and
work that makes no other use of a key than to send it along with its requests. -/
namespace ClassVerification

/-- A request that carries a key in its header. An empty key has none. -/
def Request.carrying (key : Text) (request : Request) : Request :=
  { request with apiKey := if key.isEmpty then none else some key }

/-- The same action with a key, if it is a request. -/
def Action.carrying (key : Text) : Action → Action
  | .requested request => .requested (request.carrying key)
  | a => a

namespace Action

/-- It is all the same whether an action is given a key before it is recorded or after. -/
theorem inContext_carrying (context : Members Json) (key : Text) (a : Action) :
    (a.carrying key).inContext context = (a.inContext context).carrying key := by
  cases a <;> rfl

theorem apiKey_of_mem_carrying {key : Text} {actions : List Action} {request : Request}
    (h : .requested request ∈ actions.map (carrying key)) :
    request.apiKey = if key = [] then none else some key := by
  obtain ⟨a, -, heq⟩ := List.mem_map.1 h
  cases a with
  | requested other =>
    cases heq
    simp [Request.carrying]
  | slept _ | ran _ | compiled _ | logged _ | noticed _ => cases heq

theorem map_carrying_of_no_request {actions : List Action}
    (h : ∀ request, .requested request ∉ actions) (key : Text) :
    actions.map (carrying key) = actions := by
  refine (List.map_congr_left fun a ha => ?_).trans actions.map_id
  cases a with
  | requested request => exact absurd ha (h request)
  | slept _ | ran _ | compiled _ | logged _ | noticed _ => rfl

end Action

/-- The first code point of a key that no header can hold. -/
def keyFlaw? (key : Text) : Option Unencodable := Unencodable.find CodePoint.isAscii 0 key

namespace SessionM

variable {α β γ δ : Type} {s t u : Session}

/-- Work in a session ends so, leads to such a session and does this, whatever is bound in the log
and has been done before. The events that it tells the log take along what is bound. -/
def Does (x : SessionM α) (s : Session) (outcome : Except Error α) (t : Session)
    (deeds : List Action) : Prop :=
  ∀ context actions, Session.run x { s with context, actions } =
    (outcome, { t with context, actions := actions ++ deeds.map (Action.inContext context) })

namespace Does

variable {x : SessionM α} {f : α → SessionM β} {outcome : Except Error β}
  {deeds first second : List Action}

theorem bind {a : α} (hx : Does x s (.ok a) u first) (hf : Does (f a) u outcome t second) :
    Does (x >>= f) s outcome t (first ++ second) := by
  intro context actions
  rw [Session.run_bind, hx context actions]
  dsimp only
  rw [hf context, List.map_append, List.append_assoc]

theorem bind_error {e : Error} (hx : Does x s (.error e) t deeds) :
    Does (x >>= f) s (.error e) t deeds := by
  intro context actions
  rw [Session.run_bind, hx context actions]

end Does

/-- Work that is given a key and makes no other use of it than to send it along: in each session it
ends alike and does alike for all keys with the same flaw. What it hands over may hold the key, in
the way of a view. -/
def Forwards (flaw : Option Unencodable) (view : Text → α → β) (work : Text → SessionM β) : Prop :=
  ∀ s, ∃ (outcome : Except Error α) (t : Session) (deeds : List Action),
    ∀ key, keyFlaw? key = flaw →
      Does (work key) s (outcome.map (view key)) t (deeds.map (Action.carrying key))

/-- The same of work that hands over nothing of the key. -/
def IsBlind (flaw : Option Unencodable) (work : Text → SessionM α) : Prop :=
  Forwards flaw (fun _ => id) work

variable {flaw : Option Unencodable} {view : Text → α → β} {other : Text → γ → δ}

theorem Forwards.bind {x : Text → SessionM β} {f : Text → β → SessionM δ}
    (hx : Forwards flaw view x) (hf : ∀ a, Forwards flaw other fun key => f key (view key a)) :
    Forwards flaw other fun key => x key >>= f key := by
  intro s
  obtain ⟨outcome, u, first, hx⟩ := hx s
  cases outcome with
  | error e => exact ⟨.error e, u, first, fun key hkey => (hx key hkey).bind_error⟩
  | ok a =>
    obtain ⟨outcome, t, second, hf⟩ := hf a u
    refine ⟨outcome, t, first ++ second, fun key hkey => ?_⟩
    rw [List.map_append]
    exact (hx key hkey).bind (hf key hkey)

/-- With one key, such work is work like any other. -/
theorem Forwards.exists_does {work : Text → SessionM β} {key : Text}
    (h : Forwards (keyFlaw? key) view work) (s : Session) :
    ∃ outcome t deeds, Does (work key) s outcome t deeds := by
  obtain ⟨_, _, _, hdoes⟩ := h s
  exact ⟨_, _, _, hdoes key rfl⟩

/-- Work that only looks something up. -/
theorem forwards_of_run_eq {work : Text → SessionM β} (r : Except Error α)
    (h : ∀ key s, keyFlaw? key = flaw → Session.run (work key) s = (r.map (view key), s)) :
    Forwards flaw view work := by
  refine fun s => ⟨r, s, [], fun key hkey context actions => ?_⟩
  rw [h key _ hkey]
  simp

theorem forwards_orFault {work : Text → Except Fault β} (r : Except Fault α)
    (h : ∀ key, keyFlaw? key = flaw → work key = r.map (view key)) :
    Forwards flaw view fun key => orFault (work key) := by
  refine forwards_of_run_eq (r.mapError .fault) fun key s hkey => ?_
  rw [Session.run_orFault, h key hkey]
  cases r <;> rfl

theorem isBlind_of_run_eq {work : Text → SessionM α} (r : Except Error α)
    (h : ∀ key s, Session.run (work key) s = (r, s)) : IsBlind flaw work :=
  forwards_of_run_eq r fun key s _ => by rw [h, Except.map_id]; rfl

theorem isBlind_pure (a : α) : IsBlind flaw fun _ => pure a :=
  isBlind_of_run_eq (.ok a) fun _ _ => rfl

theorem isBlind_fail (f : Failure) : IsBlind flaw fun _ => (fail f : SessionM α) :=
  isBlind_of_run_eq (.error (.failure f)) fun _ _ => rfl

theorem isBlind_fault (f : Fault) : IsBlind flaw fun _ => (fault f : SessionM α) :=
  isBlind_of_run_eq (.error (.fault f)) fun _ _ => rfl

theorem isBlind_ofExcept (r : Except Error α) : IsBlind flaw fun _ => ofExcept r :=
  isBlind_of_run_eq r fun _ s => Session.run_ofExcept r s

theorem isBlind_orFault (r : Except Fault α) : IsBlind flaw fun _ => orFault r :=
  isBlind_of_run_eq (r.mapError .fault) fun _ s => Session.run_orFault r s

/-- Work that looks at the session, but neither at what is bound nor at what has been done. -/
theorem Forwards.get_bind {f : Text → Session → SessionM β}
    (hsame : ∀ key s context actions, f key { s with context, actions } = f key s)
    (hf : ∀ s, Forwards flaw view fun key => f key s) :
    Forwards flaw view fun key => get >>= f key := by
  intro s
  obtain ⟨outcome, t, deeds, hf⟩ := hf s s
  refine ⟨outcome, t, deeds, fun key hkey context actions => ?_⟩
  rw [Session.run_bind, Session.run_get]
  dsimp only
  rw [hsame]
  exact hf key hkey context actions

theorem isBlind_modify {f : Session → Session}
    (h : ∀ s context actions, f { s with context, actions } = { f s with context, actions }) :
    IsBlind flaw fun _ => modify f := by
  refine fun s => ⟨.ok (), f s, [], fun key _ context actions => ?_⟩
  rw [Session.run_modify, h]
  simp [Except.map]

/-- Doing and telling what is no request. -/
theorem isBlind_record {actions : List Action} (h : ∀ request, .requested request ∉ actions) :
    IsBlind flaw fun _ => record actions := by
  refine fun s => ⟨.ok (), s, actions, fun key _ context before => ?_⟩
  rw [Action.map_carrying_of_no_request h, Session.run_record]
  rfl

theorem isBlind_log {level : LogLevel} {logger event : Text} {fields : Members Json} :
    IsBlind flaw fun _ => log level logger event fields := isBlind_record (by simp)

/-- A conversation whose requests carry the key, and which goes the same way with each key. -/
theorem isBlind_converse {talk : Text → List Reply → Transcript α}
    (base : List Reply → Transcript α)
    (h : ∀ key replies, talk key replies =
      { base replies with actions := (base replies).actions.map (Action.carrying key) }) :
    IsBlind flaw fun key => converse (talk key) := by
  refine fun s => ⟨(base s.replies).outcome, { s with replies := (base s.replies).left },
    (base s.replies).actions, fun key _ context before => ?_⟩
  rw [Session.run_converse, h, Except.map_id]
  rfl

/-- Work that ends alike and does alike whatever is bound in the log and has been done before, and
that sends no request. -/
def IsLocal (x : SessionM α) : Prop :=
  ∀ s, ∃ outcome t deeds, Does x s outcome t deeds ∧ ∀ request, .requested request ∉ deeds

theorem IsLocal.isBlind {x : SessionM α} (h : IsLocal x) : IsBlind flaw fun _ => x := by
  intro s
  obtain ⟨outcome, t, deeds, hdoes, hno⟩ := h s
  refine ⟨outcome, t, deeds, fun key _ => ?_⟩
  rw [Action.map_carrying_of_no_request hno, Except.map_id]
  exact hdoes

/-- Work without a key is local if it sends no request. -/
theorem isLocal_of_isOffline {x : SessionM α} (hx : IsBlind none fun _ => x) (h : IsOffline x) :
    IsLocal x := by
  intro s
  obtain ⟨outcome, t, deeds, hdoes⟩ := hx s
  have hempty := hdoes [] rfl
  rw [Except.map_id] at hempty
  refine ⟨outcome, t, _, hempty, fun request hmem => ?_⟩
  obtain ⟨new, hnew, hno⟩ := h s
  rw [hempty s.context s.actions] at hnew
  exact hno request (List.append_cancel_left hnew ▸ List.mem_map_of_mem hmem)

end SessionM

end ClassVerification
