import ClassVerification.Logging.Setup

/-!
The lines that the log writes: objects with all fields of an event, or text that is easy to read.
An event that holds what a form cannot show has no lines in it.
-/

namespace ClassVerification

namespace Json

mutual
/-- Whether every integer in a value is short enough to be written. -/
def isWritable : Json → Bool
  | .int n => (Nat.toDigits 10 n.natAbs).length ≤ Number.digitLimit
  | .list items => itemsWritable items
  | .object members => membersWritable members
  | _ => true

def itemsWritable : List Json → Bool
  | [] => true
  | item :: rest => isWritable item && itemsWritable rest

def membersWritable : List (Text × Json) → Bool
  | [] => true
  | (_, value) :: rest => isWritable value && membersWritable rest
end

end Json

namespace Logging

/-- What stands in place of the time. -/
def timestamp : Text := "<ts>"

inductive Line where
  | text (t : Text)
  | object (members : Members Json)
deriving Repr

/-- The names of the fields that every event has, whatever else it sets. -/
def ownNames : List Text := ["event", "level", "logger", "timestamp"]

/-- The field that holds a stack, to be shown below the line. -/
def stackField : Text := "stack"

/-- The field that asks for the stack of the program to be added. -/
def stackRequest : Text := "stack_info"

/-- What stands in place of the stack of the program. -/
def programStack : Text := "<stack>"

/-- The fields with the stack of the program, if they ask for it. -/
def withStack (fields : Members Json) : Members Json :=
  if (fields.get? stackRequest).any Json.isTruthy then
    fields.put stackField (.text programStack)
  else fields

/-- The field in which the writing of lines looks for the record of an event. It has to be null or
missing. -/
def recordField : Text := "_record"

/-- The fields that are never shown: the one that asks for the stack, and one that the writing of
lines sets itself. -/
def hiddenNames : List Text := [stackRequest, "_from_structlog"]

/-- The fields of an event besides those that every event has, context included. -/
def extraFields (e : LogEvent) (context : Members Json) : Members Json :=
  let fields := Members.dropKeys (hiddenNames ++ ownNames) (withStack (e.inContext context).fields)
  fields.filter fun (k, v) => !(k = recordField && v matches .null)

/-- Whether a text has to be quoted to stand on a line. -/
def needsQuotes (t : Text) : Bool :=
  t.any fun c => [.char ' ', .char '\t', .char '=', .char '\r', .char '\n', .char '"',
    .char '\''].contains c

/-- A value on a line. -/
def valueText : Json → Text
  | .text t => if needsQuotes t then t.quoted else t
  | value => value.inline

def columnWidth : Nat := 30

def levelWidth : Nat := 9

/-- The pairs of a line, sorted by their names. -/
def pairs (fields : Members Json) : List Text :=
  (fields.mergeSort fun a b => Text.le a.1 b.1).map fun (k, v) => k ++ "=" ++ valueText v

def isSpace (c : CodePoint) : Bool := c = .char ' '

/-- The field that stands in brackets behind the logger. -/
def loggerNote : Text := "logger_name"

/-- The columns and pairs of an event on one line. -/
def headline (e : LogEvent) (fields : Members Json) : Text :=
  let note := match fields.get? loggerNote with
    | some value => ["[" ++ value.plain ++ "]"]
    | none => []
  let columns := [
    timestamp, "[" ++ Text.padRight levelWidth e.level.name ++ "]",
    Text.padRight columnWidth e.event, "[" ++ e.logger ++ "]"] ++ note
  (Text.join " " (columns ++ pairs (fields.dropKeys [loggerNote]))).dropTrailing isSpace

/-- The field that holds the text of an error, to be shown below the line. -/
def errorField : Text := "exception"

/-- A block below the line. A field that is missing or null has none, and one that is not text
cannot be shown. -/
def block? (fields : Members Json) (name : Text) : Option (Option Text) :=
  match fields.get? name with
  | none | some .null => some none
  | some (.text t) => some (some t)
  | some _ => none

/-- What parts a stack from the error below it. -/
def rule : Text := [.char '\n', .char '\n'] ++ List.replicate 79 (.char '=') ++ [.char '\n']

/-- What stands below the line of an event: a stack, and the text of an error. -/
def below? (fields : Members Json) : Option Text := do
  let stack ← block? fields stackField
  let error ← block? fields errorField
  let marked := (fields.get? LogEvent.errorMark).any Json.isTruthy
  let stackPart : Text := match stack with
    | some t => "\n" ++ t ++ if marked || error.isSome then rule else []
    | none => []
  let errorPart : Text := match error with
    | some t => "\n" ++ t
    | none => []
  return stackPart ++ errorPart

/-- The fields that stand on the line itself. -/
def lineFields (fields : Members Json) : Members Json :=
  fields.dropKeys [stackField, errorField, LogEvent.errorMark]

/-- An event with its further fields as text, if it can be shown. -/
def consoleText? (e : LogEvent) (fields : Members Json) : Option Text :=
  if Json.membersWritable (lineFields fields) then
    (below? fields).map fun below => headline e (lineFields fields) ++ below
  else none

/-- Text as the lines that it takes up. -/
def textLines (t : Text) : List Line := (t.split (.char '\n')).map .text

/-- The fields that every event has. -/
def ownMembers (e : LogEvent) : Members Json := [
  ("event", .text e.event), ("level", .text e.level.name), ("logger", .text e.logger),
  ("timestamp", .text timestamp)]

/-- An event as lines, if it can be shown. -/
def eventLines? (form : Form) (e : LogEvent) (context : Members Json) : Option (List Line) :=
  let fields := extraFields e context
  if fields.has recordField then none
  else match form with
    | .console => (consoleText? e fields).map textLines
    | .json =>
      if Json.membersWritable fields then some [.object (ownMembers e ++ fields)] else none

/-- The message of a notice as lines; nothing but the message is shown. -/
def messageLines (form : Form) (message : Text) : List Line :=
  match form with
  | .console => textLines ((Text.padRight columnWidth message).dropTrailing isSpace)
  | .json => [.object [("event", .text message)]]

namespace Log

/-- The lines written for an event. -/
def event (log : Log) (e : LogEvent) : List Line :=
  match log.setup with
  | some s =>
    if s.writes e.logger e.level then (eventLines? s.form e log.context).getD [] else []
  | none => []

/-- The lines written for a notice. -/
def notice (log : Log) (n : Notice) : List Line :=
  match log.setup with
  | some s => if s.writes n.logger n.level then messageLines s.form n.message else []
  | none => []

end Log

end Logging

end ClassVerification
