import ClassVerification.JobStatus.Decode

/-!
The course of a verification job. Submitted and compiled jobs move freely between each other and
into every final state; a job in a final state accepts no event that reports a status. The event of
the beginning alone is accepted everywhere: it brings the job back to where it started.
-/

namespace ClassVerification

/-- A way from one status of a job to another, and the event that takes it. -/
structure JobArrow where
  source : JobStatus
  event : Text
  target : JobStatus
deriving DecidableEq, Repr

/-- A job that is followed through its statuses. -/
structure JobMachine where
  first : JobStatus := .submitted
  status : JobStatus := first
deriving DecidableEq, Repr

namespace JobMachine

/-- All ways that a job can take. -/
def arrows : List JobArrow := [
  ⟨.submitted, "submitted", .submitted⟩,
  ⟨.compiled, "submitted", .submitted⟩,
  ⟨.submitted, "compiled", .compiled⟩,
  ⟨.compiled, "compiled", .compiled⟩,
  ⟨.submitted, "compile_failed", .compileFailed⟩,
  ⟨.compiled, "compile_failed", .compileFailed⟩,
  ⟨.submitted, "failed", .failed⟩,
  ⟨.compiled, "failed", .failed⟩,
  ⟨.submitted, "succeeded", .succeeded⟩,
  ⟨.compiled, "succeeded", .succeeded⟩]

/-- The states that are marked as final. -/
def finalStates : List JobStatus := [.compileFailed, .failed, .succeeded]

/-- A machine that starts at the status a value stands for. -/
def start (value : Json) : Except Fault JobMachine :=
  match JobStatus.ofKey? value with
  | some status => .ok { first := status }
  | none => .error (.notAJobStatus value)

def isTerminal (m : JobMachine) : Bool := finalStates.contains m.status

/-- The events that report a status and that the machine accepts: all of them, until it stands in a
final state. -/
def allowedEvents (m : JobMachine) : List Text :=
  if m.isTerminal then [] else JobStatus.all.map JobStatus.event

/-- The event of the beginning. -/
def beginning : Text := "__initial__"

/-- The arrow that an event takes from a status. -/
def arrow? (status : JobStatus) (event : Text) : Option JobArrow :=
  arrows.find? fun a => a.source = status && a.event = event

/-- Fires an event by its name. -/
def send (m : JobMachine) (event : Text) : Except Fault JobMachine :=
  if event = beginning then .ok { m with status := m.first }
  else match arrow? m.status event with
    | some arrow => .ok { m with status := arrow.target }
    | none => .error (.transition event m.status)

/-- Fires the event of the status that a value stands for. -/
def observe (m : JobMachine) (value : Json) : Except Fault JobMachine :=
  if !value.isKey then .error (.notAKey value.kind)
  else match JobStatus.ofKey? value with
    | some status => m.send status.event
    | none => .error (.unknownStatusKey value)

theorem event_ne_beginning (s : JobStatus) : s.event ≠ beginning := by cases s <;> decide

/-- The marks agree with the statuses that do not change any more. -/
theorem isTerminal_eq (m : JobMachine) : m.isTerminal = m.status.isTerminal := by
  obtain ⟨first, status⟩ := m
  cases status <;> rfl

/-- From a state that is not final the event of each status takes an arrow to it. -/
theorem arrow?_event {status : JobStatus} (h : status.isTerminal = false) (s : JobStatus) :
    arrow? status s.event = some ⟨status, s.event, s⟩ := by
  cases status with
  | submitted | compiled => cases s <;> rfl
  | compileFailed | failed | succeeded => cases h

theorem send_event {m : JobMachine} (h : m.isTerminal = false) (s : JobStatus) :
    m.send s.event = .ok { m with status := s } := by
  rw [isTerminal_eq] at h
  simp [send, event_ne_beginning, arrow?_event h]

/-- Until it stands in a final state, a machine goes where the code of a status says. -/
theorem observe_code {m : JobMachine} (h : m.isTerminal = false) (s : JobStatus) :
    m.observe (.int s.code) = .ok { m with status := s } := by
  simp [observe, Json.isKey, JobStatus.ofKey?, Json.keyInt?, send_event h]

end JobMachine

end ClassVerification
