import ClassVerification.Proofs.Session.Run

/-! Work that sends no request, however it ends. -/
namespace ClassVerification

variable {α β : Type} {s t u : Session}

/-- Between two sessions things may be done, but no request is sent. -/
def Session.Offline (s t : Session) : Prop :=
  ∃ new, t.actions = s.actions ++ new ∧ ∀ request, .requested request ∉ new

namespace Session.Offline

theorem of_actions_eq (h : t.actions = s.actions) : s.Offline t := ⟨[], by simp [h], by simp⟩

theorem trans (h : s.Offline t) (h' : t.Offline u) : s.Offline u := by
  obtain ⟨first, hfirst, hno⟩ := h
  obtain ⟨second, hsecond, hno'⟩ := h'
  refine ⟨first ++ second, by simp [hfirst, hsecond], fun request hmem => ?_⟩
  exact (List.mem_append.1 hmem).elim (hno request) (hno' request)

theorem record {actions : List Action} (h : ∀ request, .requested request ∉ actions)
    (s : Session) : s.Offline (s.record actions) := by
  refine ⟨_, actions_record s actions, fun request hmem => ?_⟩
  obtain ⟨a, ha, heq⟩ := List.mem_map.1 hmem
  cases a with
  | requested other =>
    cases heq
    exact h _ ha
  | slept _ | ran _ | compiled _ | logged _ | noticed _ => cases heq

end Session.Offline

namespace SessionM

/-- Work that sends no request. -/
def IsOffline (x : SessionM α) : Prop := ∀ s : Session, s.Offline (Session.run x s).2

theorem IsOffline.bind {x : SessionM α} {f : α → SessionM β} (hx : IsOffline x)
    (hf : ∀ a, IsOffline (f a)) : IsOffline (x >>= f) := by
  intro s
  have hfirst := hx s
  rw [Session.run_bind]
  cases hrun : Session.run x s with
  | mk first u =>
    rw [hrun] at hfirst
    cases first with
    | error e => exact hfirst
    | ok a => exact hfirst.trans (hf a u)

/-- Work that leaves the session as it is. -/
theorem isOffline_of_run_eq {x : SessionM α} (h : ∀ s, (Session.run x s).2 = s) : IsOffline x :=
  fun s => .of_actions_eq (congrArg Session.actions (h s))

theorem isOffline_pure (a : α) : IsOffline (pure a : SessionM α) := isOffline_of_run_eq fun _ => rfl

theorem isOffline_get : IsOffline (get : SessionM Session) := isOffline_of_run_eq fun _ => rfl

theorem isOffline_fail (f : Failure) : IsOffline (fail f : SessionM α) :=
  isOffline_of_run_eq fun _ => rfl

theorem isOffline_fault (f : Fault) : IsOffline (fault f : SessionM α) :=
  isOffline_of_run_eq fun _ => rfl

theorem isOffline_orFault (x : Except Fault α) : IsOffline (orFault x) :=
  isOffline_of_run_eq fun s => by rw [Session.run_orFault]

theorem isOffline_record {actions : List Action} (h : ∀ request, .requested request ∉ actions) :
    IsOffline (record actions) := fun s => .record h s

theorem isOffline_log (level : LogLevel) (logger event : Text) (fields : Members Json) :
    IsOffline (log level logger event fields) := isOffline_record (by simp)

theorem isOffline_modify {f : Session → Session} (h : ∀ s, (f s).actions = s.actions) :
    IsOffline (modify f) := fun s => .of_actions_eq (h s)

end SessionM

end ClassVerification
