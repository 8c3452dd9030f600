import ClassVerification.Proofs.Session.Run

/-! Work that ends in no error but a declared failure. -/
namespace ClassVerification

/-- An outcome that is no error but a declared failure, or a request that no reply is left for. -/
def Outcome.IsDeclared {α : Type} (outcome : Except Error α) : Prop :=
  ∀ e, outcome = .error e → (∃ f, e = .failure f) ∨ e = .fault .noReplyLeft

namespace Outcome

variable {α β : Type}

theorem isDeclared_ok (a : α) : IsDeclared (.ok a) := by
  intro e he
  cases he

theorem isDeclared_failure (f : Failure) : IsDeclared (.error (.failure f) : Except Error α) := by
  intro e he
  cases he
  exact Or.inl ⟨f, rfl⟩

theorem isDeclared_noReplyLeft : IsDeclared (.error (.fault .noReplyLeft) : Except Error α) := by
  intro e he
  cases he
  exact Or.inr rfl

/-- An error is declared whatever result was hoped for. -/
theorem IsDeclared.error {e : Error} (h : IsDeclared (.error e : Except Error α)) :
    IsDeclared (.error e : Except Error β) := by
  intro e' he'
  cases he'
  exact h e rfl

theorem IsDeclared.map {x : Except Error α} (h : IsDeclared x) (f : α → β) :
    IsDeclared (x.map f) := by
  cases x with
  | ok a => exact isDeclared_ok _
  | error e => exact h.error

theorem isDeclared_mapError (x : Except Failure α) : IsDeclared (x.mapError .failure) := by
  cases x with
  | ok a => exact isDeclared_ok a
  | error f => exact isDeclared_failure f

end Outcome

open Outcome in
/-- Work in two parts ends as declared if the first does, and the second wherever it goes on. -/
theorem Session.isDeclared_bind {α β : Type} {x : SessionM α} {f : α → SessionM β} {s : Session}
    (hx : IsDeclared (run x s).1)
    (hf : ∀ a t, run x s = (.ok a, t) → IsDeclared (run (f a) t).1) :
    IsDeclared (run (x >>= f) s).1 := by
  rw [run_bind]
  cases hrun : run x s with
  | mk first t =>
    cases first with
    | ok a => exact hf a t hrun
    | error e =>
      rw [hrun] at hx
      exact hx.error

open Outcome in
/-- The same where the first part only looks something up. -/
theorem Session.isDeclared_bind_of_eq {α β : Type} {x : SessionM α} {f : α → SessionM β}
    {s : Session} {r : Except Error α} (hx : run x s = (r, s)) (hr : IsDeclared r)
    (hf : ∀ a, r = .ok a → IsDeclared (run (f a) s).1) : IsDeclared (run (x >>= f) s).1 := by
  refine isDeclared_bind (by rwa [hx]) fun a t ha => ?_
  obtain ⟨hra, rfl⟩ := Prod.mk.inj (hx.symm.trans ha)
  exact hf a hra

end ClassVerification
