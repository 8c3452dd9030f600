import Mathlib.Data.List.Basic
import ClassVerification.Logging.Registry

/-! What set-ups leave of the loggers: all of the last one that succeeded, nothing of the others. -/
namespace ClassVerification.Logging

/-- The state in which a set-up leaves the loggers, whatever they were before. -/
def Setup.registry (s : Setup) : Registry where
  handlers := [⟨s.stream, s.form⟩]
  level := s.level.number
  httpx := s.quietNumber
  httpcore := s.quietNumber
  connected := true

/-- A set-up that is asked for, with the settings that count for it. -/
structure SetupCall where
  settings : Settings
  arguments : Arguments

namespace SetupCall

/-- The level that a call asks for, if its name is that of a level. -/
def level (c : SetupCall) : Except Failure LogLevel := levelOf (c.arguments.levelName c.settings)

def setup? (c : SetupCall) : Option Setup := (setup c.settings c.arguments).toOption

/-- A call is turned away, as the name of its level is none. -/
def Fails (c : SetupCall) : Prop := ∃ message, c.level = .error (.configuration message)

end SetupCall

namespace Registry

/-- What a call comes to, and the loggers after it. -/
def answer (r : Registry) (c : SetupCall) : Except Failure Unit × Registry :=
  r.run (RegistryM.configure c.settings c.arguments)

/-- The loggers after a series of calls. -/
def afterAll (r : Registry) (calls : List SetupCall) : Registry :=
  calls.foldl (fun r c => (r.answer c).2) r

end Registry

variable {r : Registry} {c : SetupCall} {calls : List SetupCall} {name : Text} {s : Setup}
  {level : LogLevel} {f : Failure}

theorem levelOf_eq_error (h : levelOf name = .error f) :
    f = .configuration ("Unknown log level: " ++ name.quoted) := by
  rw [levelOf] at h
  split at h
  · cases h
  · exact (Except.error.inj h).symm

/-- All that a set-up changes is set to a value of its own. -/
theorem run_establish (s : Setup) (r : Registry) :
    r.run (RegistryM.establish s) = (.ok (), s.registry) := rfl

theorem run_configure (settings : Settings) (a : Arguments) (r : Registry) :
    r.run (RegistryM.configure settings a) =
      match setup settings a with
      | .ok s => (.ok (), s.registry)
      | .error f => (.error f, r) := by
  rw [RegistryM.configure]
  cases setup settings a with
  | ok s => exact run_establish s r
  | error f => rfl

theorem SetupCall.level_cases (c : SetupCall) : (∃ level, c.level = .ok level) ∨ c.Fails := by
  cases h : c.level with
  | ok level => exact Or.inl ⟨level, rfl⟩
  | error f => exact Or.inr ⟨_, levelOf_eq_error h ▸ h⟩

theorem SetupCall.setup?_eq_some_iff : c.setup? = some s ↔ ∃ level, c.level = .ok level ∧
    s = ⟨level, c.arguments.form c.settings, c.arguments.destination⟩ := by
  rw [setup?, setup, ← SetupCall.level]
  cases c.level <;> simp [Except.map, Except.toOption, eq_comm]

theorem SetupCall.setup?_eq_none_iff : c.setup? = none ↔ c.Fails := by
  rw [setup?, setup, ← SetupCall.level, SetupCall.Fails]
  cases h : c.level with
  | ok level => simp [Except.map, Except.toOption]
  | error f =>
    obtain rfl := levelOf_eq_error h
    simp [Except.map, Except.toOption]

/-- A call that succeeds leaves the loggers in its own state. -/
theorem answer_of_level (h : c.level = .ok level) (r : Registry) : r.answer c =
    (.ok (), Setup.registry ⟨level, c.arguments.form c.settings, c.arguments.destination⟩) := by
  rw [Registry.answer, run_configure, setup, ← SetupCall.level, h]
  rfl

/-- A call that is turned away leaves the loggers as they were. -/
theorem answer_of_error (h : c.level = .error f) (r : Registry) : r.answer c = (.error f, r) := by
  rw [Registry.answer, run_configure, setup, ← SetupCall.level, h]
  rfl

theorem after_eq (r : Registry) (c : SetupCall) :
    (r.answer c).2 = (c.setup?.map Setup.registry).getD r := by
  rcases c.level_cases with ⟨level, h⟩ | h
  · rw [answer_of_level h, SetupCall.setup?_eq_some_iff.2 ⟨level, h, rfl⟩]
    rfl
  · rw [SetupCall.setup?_eq_none_iff.2 h]
    obtain ⟨message, h⟩ := h
    rw [answer_of_error h]
    rfl

/-- Of a series of calls, the last one that succeeds decides the state of the loggers alone. -/
theorem afterAll_eq (r : Registry) (calls : List SetupCall) : r.afterAll calls =
    ((calls.filterMap SetupCall.setup?).getLast?.map Setup.registry).getD r := by
  induction calls generalizing r with
  | nil => rfl
  | cons c calls ih =>
    rw [Registry.afterAll, List.foldl_cons, ← Registry.afterAll, ih, after_eq]
    cases hc : c.setup? with
    | none => simp [hc]
    | some s =>
      cases hrest : (calls.filterMap SetupCall.setup?).getLast? <;>
        simp [hc, List.getLast?_cons, hrest]

/-- Either no call of a series succeeds, or there is one that succeeds and is followed by none. -/
theorem last_success_cases (calls : List SetupCall) :
    ((∀ c ∈ calls, c.Fails) ∧ (calls.filterMap SetupCall.setup?).getLast? = none) ∨
      ∃ before c rest s, calls = before ++ c :: rest ∧ c.setup? = some s ∧
        (∀ d ∈ rest, d.Fails) ∧ (calls.filterMap SetupCall.setup?).getLast? = some s := by
  cases hlast : (calls.filterMap SetupCall.setup?).getLast? with
  | none =>
    refine Or.inl ⟨fun c hc => ?_, rfl⟩
    rw [List.getLast?_eq_none_iff, List.filterMap_eq_nil_iff] at hlast
    exact SetupCall.setup?_eq_none_iff.1 (hlast c hc)
  | some s =>
    obtain ⟨earlier, hsetups⟩ := List.getLast?_eq_some_iff.1 hlast
    obtain ⟨before, later, rfl, -, hlater⟩ := List.filterMap_eq_append_iff.1 hsetups
    obtain ⟨failed, c, rest, rfl, -, hc, hrest⟩ := List.filterMap_eq_cons_iff.1 hlater
    refine Or.inr ⟨before ++ failed, c, rest, s, by simp, hc, fun d hd => ?_, rfl⟩
    exact SetupCall.setup?_eq_none_iff.1 (List.filterMap_eq_nil_iff.1 hrest d hd)

end ClassVerification.Logging
