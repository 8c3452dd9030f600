import ClassVerification.Json.Basic

/-!
Log events: a name, the logger that it comes from, a level and fields. A context, bound around a
piece of work, adds fields that the event does not set itself. A notice is less: a plain message,
without fields and outside every context.
-/

namespace ClassVerification

inductive LogLevel where
  | notSet
  | debug
  | info
  | warning
  | error
  | critical
deriving DecidableEq, Repr

namespace LogLevel

def number : LogLevel → Nat
  | .notSet => 0
  | .debug => 10
  | .info => 20
  | .warning => 30
  | .error => 40
  | .critical => 50

def name : LogLevel → Text
  | .notSet => "notset"
  | .debug => "debug"
  | .info => "info"
  | .warning => "warning"
  | .error => "error"
  | .critical => "critical"

end LogLevel

structure LogEvent where
  level : LogLevel
  logger : Text
  event : Text
  fields : Members Json
deriving Repr

structure Notice where
  level : LogLevel
  logger : Text
  message : Text
deriving DecidableEq, Repr

namespace LogEvent

/-- Adds the bound fields that the event does not set. -/
def inContext (context : Members Json) (e : LogEvent) : LogEvent :=
  { e with fields := e.fields ++ context.filter fun (k, _) => !e.fields.has k }

/-- The field that marks an event as the report of an error that has been caught. -/
def errorMark : Text := "exc_info"

/-- The report of an error that has been caught. It is marked as such unless its fields say
otherwise. -/
def caught (logger event : Text) (fields : Members Json) : LogEvent :=
  { level := .error, logger, event
    fields := if fields.has errorMark then fields else fields.add errorMark (.bool true) }

end LogEvent

end ClassVerification
