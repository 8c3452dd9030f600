import ClassVerification.Logging.Line

/-!
The state of the loggers, which every set-up changes step by step, and what is written in it.
-/

namespace ClassVerification.Logging

/-- What takes the events that reach the root logger, and writes them to a stream. -/
structure Handler where
  stream : Stream
  form : Form
deriving DecidableEq, Repr

/-- The handlers and the level of the root logger, the levels of the loggers of the network layer,
where zero is no level of its own, and whether events are handed to the loggers at all. -/
structure Registry where
  handlers : List Handler := []
  level : Nat := LogLevel.warning.number
  httpx : Nat := 0
  httpcore : Nat := 0
  connected : Bool := false
deriving DecidableEq, Repr

/-- Work on the state of the loggers. What has been changed stays changed when the work fails. -/
abbrev RegistryM := ExceptT Failure (StateM Registry)

namespace Registry

/-- Runs work and hands back its outcome and the state after it. -/
def run {α : Type} (work : RegistryM α) (r : Registry) : Except Failure α × Registry :=
  StateT.run (ExceptT.run work) r

def connect (r : Registry) : Registry := { r with connected := true }

def clearHandlers (r : Registry) : Registry := { r with handlers := [] }

def addHandler (h : Handler) (r : Registry) : Registry := { r with handlers := r.handlers ++ [h] }

def setLevel (number : Nat) (r : Registry) : Registry := { r with level := number }

/-- Gives a logger of the network layer a level of its own. -/
def setNoisy (number : Nat) (l : NoisyLogger) (r : Registry) : Registry :=
  match l with
  | .httpx => { r with httpx := number }
  | .httpcore => { r with httpcore := number }

def noisy (r : Registry) : NoisyLogger → Nat
  | .httpx => r.httpx
  | .httpcore => r.httpcore

/-- The least level of the events of a logger: that of the nearest logger above it which has one. -/
def threshold (r : Registry) (logger : Text) : Nat :=
  match NoisyLogger.above? logger with
  | some l => if r.noisy l = 0 then r.level else r.noisy l
  | none => r.level

def admits (r : Registry) (logger : Text) (level : LogLevel) : Bool :=
  level != .notSet && r.threshold logger ≤ level.number

/-- What is written for an event: the lines that each handler can show of it, with their stream. -/
def event (r : Registry) (e : LogEvent) (context : Members Json) : List (Stream × List Line) :=
  if r.connected && r.admits e.logger e.level then
    r.handlers.filterMap fun h => (eventLines? h.form e context).map (h.stream, ·)
  else []

/-- What is written for a notice, which is handed to the loggers directly. -/
def notice (r : Registry) (n : Notice) : List (Stream × List Line) :=
  if r.admits n.logger n.level then
    r.handlers.map fun h => (h.stream, messageLines h.form n.message)
  else []

end Registry

namespace RegistryM

/-- Brings the loggers into the state of a set-up, one change after the other. -/
def establish (s : Setup) : RegistryM Unit := do
  modify Registry.connect
  modify Registry.clearHandlers
  modify (Registry.addHandler ⟨s.stream, s.form⟩)
  modify (Registry.setLevel s.level.number)
  for l in NoisyLogger.all do
    modify (Registry.setNoisy s.quietNumber l)

/-- Sets the log up. What is to hold is known before the first change. -/
def configure (settings : Settings) (a : Arguments) : RegistryM Unit := do
  match setup settings a with
  | .ok s => establish s
  | .error f => throw f

end RegistryM

end ClassVerification.Logging
