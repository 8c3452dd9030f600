import ClassVerification.Failure
import ClassVerification.Event
import ClassVerification.Session

/-!
How the log is set up: which events are written, and in which of two forms. A set-up that fails
leaves the log as it was, and of several that succeed the last one holds.
-/

namespace ClassVerification.Logging

/-- The names that a level may be asked for by. -/
def levelNames : List (Text × LogLevel) := [
  ("CRITICAL", .critical), ("FATAL", .critical), ("ERROR", .error), ("WARN", .warning),
  ("WARNING", .warning), ("INFO", .info), ("DEBUG", .debug), ("NOTSET", .notSet)]

/-- The level of a name in any case. -/
def levelOf (name : Text) : Except Failure LogLevel :=
  match (levelNames.find? fun (k, _) => k = Text.upperLatin name) with
  | some (_, level) => .ok level
  | none => .error (.configuration ("Unknown log level: " ++ name.quoted))

inductive Form where
  | console
  | json
deriving DecidableEq, Repr

/-- Where lines are written: to the error output of the process, or to a stream that is told. -/
inductive Stream where
  | standardError
  | opened (number : Nat)
deriving DecidableEq, Repr

/-- What holds after a set-up: the least level of all events, the form of a line, and where lines
go. -/
structure Setup where
  level : LogLevel
  form : Form
  stream : Stream
deriving DecidableEq, Repr

/-- What a set-up may be told in place of the settings, and the stream for its lines. -/
structure Arguments where
  level : Option Text := none
  json : Option Bool := none
  stream : Option Stream := none
deriving DecidableEq, Repr

namespace Arguments

/-- The level name that counts. An empty one stands for that of the settings. -/
def levelName (a : Arguments) (settings : Settings) : Text :=
  match a.level with
  | some name => if name.isEmpty then settings.appLogLevel else name
  | none => settings.appLogLevel

def form (a : Arguments) (settings : Settings) : Form :=
  if a.json.getD settings.appLogJson then .json else .console

def destination (a : Arguments) : Stream := a.stream.getD .standardError

end Arguments

/-- What is to hold for given settings, unless the name of the level is none. -/
def setup (settings : Settings) (a : Arguments) : Except Failure Setup :=
  (levelOf (a.levelName settings)).map fun level => ⟨level, a.form settings, a.destination⟩

/-- Whether a logger is one of a name, or lies below it. -/
def isWithin (name logger : Text) : Bool := logger = name || logger.startsWith (name ++ ".")

/-- The loggers of the network layer, whose chatter below a warning is not written. -/
inductive NoisyLogger where
  | httpx
  | httpcore
deriving DecidableEq, Repr

namespace NoisyLogger

def all : List NoisyLogger := [.httpx, .httpcore]

def name : NoisyLogger → Text
  | .httpx => "httpx"
  | .httpcore => "httpcore"

/-- The one that a logger is, or lies below. -/
def above? (logger : Text) : Option NoisyLogger := all.find? fun l => isWithin l.name logger

end NoisyLogger

namespace Setup

/-- The least level of the events of the network layer. -/
def quietNumber (s : Setup) : Nat := max s.level.number LogLevel.warning.number

/-- The least level of the events of a logger. -/
def threshold (s : Setup) (logger : Text) : Nat :=
  if (NoisyLogger.above? logger).isSome then s.quietNumber else s.level.number

/-- Whether events of a logger are written at a level. Nothing is written at the level that stands
for none. -/
def writes (s : Setup) (logger : Text) (level : LogLevel) : Bool :=
  level != .notSet && s.threshold logger ≤ level.number

end Setup

/-- The log of a session: the last set-up that succeeded, and the bound context. -/
structure Log where
  setup : Option Setup := none
  context : Members Json := []
deriving Repr

end ClassVerification.Logging
