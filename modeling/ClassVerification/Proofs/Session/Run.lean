import ClassVerification.Api.Client
import ClassVerification.Proofs.Outcome

/-! What work in a session comes to, one equation for each way to put it together. -/
namespace ClassVerification

/-- An action as it is recorded in a context: an event takes the bound fields along. -/
def Action.inContext (context : Members Json) : Action → Action
  | .logged e => .logged (e.inContext context)
  | a => a

namespace Session

variable {α β : Type} {s t : Session}

theorem run_bind (x : SessionM α) (f : α → SessionM β) (s : Session) :
    run (x >>= f) s =
      match run x s with
      | (.ok a, t) => run (f a) t
      | (.error e, t) => (.error e, t) := by
  simp only [run, ExceptT.run_bind, StateT.run_bind]
  obtain ⟨outcome, t⟩ := StateT.run (ExceptT.run x) s
  cases outcome <;> rfl

/-- Work in two parts ends in the first part, or the second goes on where the first ended. -/
theorem run_bind_cases {x : SessionM α} {f : α → SessionM β} {outcome : Except Error β}
    (h : run (x >>= f) s = (outcome, t)) :
    (∃ e, run x s = (.error e, t) ∧ outcome = .error e) ∨
      ∃ a u, run x s = (.ok a, u) ∧ run (f a) u = (outcome, t) := by
  rw [run_bind] at h
  cases hx : run x s with
  | mk first u =>
    simp only [hx] at h
    cases first with
    | error e =>
      cases h
      exact Or.inl ⟨e, rfl, rfl⟩
    | ok a => exact Or.inr ⟨a, u, rfl, h⟩

/-- The same where the first part only looks something up. -/
theorem run_bind_cases_of_eq {x : SessionM α} {f : α → SessionM β} {outcome : Except Error β}
    {r : Except Error α} (hx : run x s = (r, s)) (h : run (x >>= f) s = (outcome, t)) :
    (∃ e, outcome = .error e ∧ t = s) ∨ ∃ a, r = .ok a ∧ run (f a) s = (outcome, t) := by
  rcases run_bind_cases h with ⟨e, hfirst, rfl⟩ | ⟨a, u, hfirst, h⟩
  · exact Or.inl ⟨e, rfl, (Prod.mk.inj (hx.symm.trans hfirst)).2.symm⟩
  · obtain ⟨ha, rfl⟩ := Prod.mk.inj (hx.symm.trans hfirst)
    exact Or.inr ⟨a, ha, h⟩

@[simp]
theorem run_pure (a : α) (s : Session) : run (pure a) s = (.ok a, s) := rfl

@[simp]
theorem run_get (s : Session) : run get s = (.ok s, s) := rfl

@[simp]
theorem run_modify (f : Session → Session) (s : Session) : run (modify f) s = (.ok (), f s) := rfl

@[simp]
theorem run_fail (f : Failure) (s : Session) :
    run (SessionM.fail f : SessionM α) s = (.error (.failure f), s) := rfl

@[simp]
theorem run_fault (f : Fault) (s : Session) :
    run (SessionM.fault f : SessionM α) s = (.error (.fault f), s) := rfl

@[simp]
theorem run_ofExcept (x : Except Error α) (s : Session) : run (SessionM.ofExcept x) s = (x, s) := by
  cases x <;> rfl

@[simp]
theorem run_orFault (x : Except Fault α) (s : Session) :
    run (SessionM.orFault x) s = (x.mapError .fault, s) := by
  cases x <;> rfl

theorem run_orFault_bind_cases {x : Except Fault α} {f : α → SessionM β}
    {outcome : Except Error β} (h : run (SessionM.orFault x >>= f) s = (outcome, t)) :
    (∃ e, outcome = .error e ∧ t = s) ∨ ∃ a, x = .ok a ∧ run (f a) s = (outcome, t) := by
  simpa only [Outcome.mapError_eq_ok_iff] using run_bind_cases_of_eq (run_orFault x s) h

@[simp]
theorem run_record (actions : List Action) (s : Session) :
    run (SessionM.record actions) s = (.ok (), s.record actions) := rfl

@[simp]
theorem run_log (level : LogLevel) (logger event : Text) (fields : Members Json) (s : Session) :
    run (SessionM.log level logger event fields) s =
      (.ok (), s.record [.logged ⟨level, logger, event, fields⟩]) := rfl

theorem run_orFault_bind_of_ok {x : Except Fault α} {a : α} (hx : x = .ok a)
    (f : α → SessionM β) (s : Session) : run (SessionM.orFault x >>= f) s = run (f a) s := by
  rw [run_bind, run_orFault, hx]
  rfl

theorem run_record_bind (actions : List Action) (f : Unit → SessionM α) (s : Session) :
    run (SessionM.record actions >>= f) s = run (f ()) (s.record actions) := by
  rw [run_bind, run_record]

/-- The session after a conversation: its actions are recorded, the replies it took are gone. -/
def afterTalk (s : Session) (t : Transcript α) : Session :=
  { s with replies := t.left }.record t.actions

@[simp]
theorem run_converse (talk : List Reply → Transcript α) (s : Session) :
    run (SessionM.converse talk) s = ((talk s.replies).outcome, s.afterTalk (talk s.replies)) := by
  simp only [SessionM.converse, run_bind, run_get, run_modify, run_record, run_ofExcept]
  rfl

@[simp]
theorem record_nil (s : Session) : s.record [] = s := by
  simp [record]

theorem actions_record (s : Session) (actions : List Action) :
    (s.record actions).actions = s.actions ++ actions.map (Action.inContext s.context) := by
  simp only [record]
  congr 2

/-- What is new in a session after a note and a conversation. -/
theorem actions_afterTalk_record (s : Session) (note : Action) (t : Transcript α) :
    ((s.record [note]).afterTalk t).actions =
      s.actions ++ (note :: t.actions).map (Action.inContext s.context) := by
  rw [afterTalk, actions_record]
  change (s.record [note]).actions ++ t.actions.map (Action.inContext s.context) = _
  rw [actions_record, List.append_assoc]
  rfl

@[simp]
theorem replies_record (s : Session) (actions : List Action) :
    (s.record actions).replies = s.replies := rfl

end Session

end ClassVerification
