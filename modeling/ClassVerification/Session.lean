import ClassVerification.Event
import ClassVerification.FileTree
import ClassVerification.Settings.Load
import ClassVerification.Text.Lines
import ClassVerification.Url.Basic

/-!
The surroundings of a verification, as a value: files, environment, the answers that the service and
the toolchain will give, the bound log context, and everything that has been done, in order.
-/

namespace ClassVerification

inductive Method where
  | get
  | post
deriving DecidableEq, Repr

def Method.name : Method → Text
  | .get => "GET"
  | .post => "POST"

/-- A request as it is sent. The body is text in UTF-8. -/
structure Request where
  method : Method
  url : Url
  contentType : Option Text
  body : Text
  apiKey : Option Text
  timeout : Binary64
deriving DecidableEq, Repr

structure Response where
  status : Int
  headers : Members Text
  body : List UInt8
  /-- What the body says if it is in a character set that is known by its name alone. -/
  foreign : Text := []
deriving DecidableEq, Repr

/-- What comes back for a request: a response, a failure of the network, or a fault. -/
inductive Reply where
  | response (r : Response)
  | broken (reason : Text)
  | refused (fault : Fault)
deriving Repr

/-- What is kept of an output when a run is cut short. -/
inductive Captured where
  | nothing
  | text (t : Text)
  | bytes (bs : List UInt8)
deriving DecidableEq, Repr

def Captured.asText : Captured → Text
  | .nothing => []
  | .text t => t
  | .bytes bs => Utf8.decodeReplacing bs

/-- How the system words its refusal to start a program. -/
inductive LaunchError where
  | silent
  | worded (message : Json)
  | numbered (number message : Json)
  | onFile (number message file : Json)
deriving Repr

def LaunchError.message : LaunchError → Text
  | .silent => []
  | .worded message => message.plain
  | .numbered number message => "[Errno " ++ number.plain ++ "] " ++ message.plain
  | .onFile number message file =>
    "[Errno " ++ number.plain ++ "] " ++ message.plain ++ ": " ++ file.inline

/-- How a run of a program ends. -/
inductive RunOutcome where
  | finished (stdout stderr : Text) (exitCode : Int)
  | timedOut (stdout stderr : Captured)
  | notStarted (error : LaunchError)
deriving Repr

/-- A run of a program: its command line, the folder it runs in and the seconds it may take. -/
structure ToolRun where
  command : List Text
  folder : Text
  timeout : Int
deriving DecidableEq, Repr

/-- Something done to the outside, or told to the log. -/
inductive Action where
  | requested (request : Request)
  | slept (seconds : Binary64)
  | ran (run : ToolRun)
  | compiled (project : Text)
  | logged (event : LogEvent)
  | noticed (notice : Notice)
deriving Repr

structure Session where
  files : FileTree := []
  here : Place := []
  environment : Members Text := []
  cachedSettings : Option Settings := none
  replies : List Reply := []
  toolRuns : List RunOutcome := []
  context : Members Json := []
  actions : List Action := []
deriving Repr

/-- Work in a session. What has been done stays done when the work ends in an error. -/
abbrev SessionM := ExceptT Error (StateM Session)

namespace Session

/-- Runs work and hands back its outcome and the session after it. -/
def run {α : Type} (work : SessionM α) (s : Session) : Except Error α × Session :=
  StateT.run (ExceptT.run work) s

/-- The path of the working directory. -/
def folder (s : Session) : FilePath := .absolute s.here

def edit (s : Session) (path : FilePath) (e : FileTree.Edit) : Session :=
  { s with files := s.files.edit s.here path e }

/-- Binds fields of the log context. -/
def bind (s : Session) (fields : Members Json) : Session :=
  { s with context := Members.putAll s.context fields }

def unbind (s : Session) (names : List Text) : Session :=
  { s with context := Members.dropKeys names s.context }

/-- Adds actions; events among them take the bound fields along. -/
def record (s : Session) (actions : List Action) : Session :=
  { s with actions := s.actions ++ actions.map fun
      | .logged e => .logged (e.inContext s.context)
      | a => a }

end Session

namespace SessionM

def fail {α : Type} (f : Failure) : SessionM α := throw (.failure f)

def fault {α : Type} (f : Fault) : SessionM α := throw (.fault f)

def ofExcept {α : Type} : Except Error α → SessionM α
  | .ok a => pure a
  | .error e => throw e

def orFault {α : Type} : Except Fault α → SessionM α
  | .ok a => pure a
  | .error f => fault f

def record (actions : List Action) : SessionM Unit := modify (·.record actions)

/-- Writes an event to the log. -/
def log (level : LogLevel) (logger event : Text) (fields : Members Json) : SessionM Unit :=
  record [.logged ⟨level, logger, event, fields⟩]

end SessionM

/-- A path as the system takes it: without NUL, and without surrogates that stand for no byte. -/
def FilePath.check (p : FilePath) : Except Fault Unit :=
  let stands (c : CodePoint) : Bool :=
    c.isScalar || (0xDC80 ≤ c.value && c.value ≤ 0xDCFF)
  let text := p.text
  match Unencodable.find stands 0 text with
  | some flaw =>
    let run := (text.drop flaw.start).takeWhile (!CodePoint.isScalar ·)
    .error (.unencodable .utf8 ⟨flaw.start, run⟩)
  | none => if text.contains (.char '\x00') then .error .embeddedNull else .ok ()

namespace Session

/-- The node that a path names, for questions about its kind. A path that names nothing has none; a
name that is too long is a fault. -/
def kindOf (s : Session) (path : FilePath) : Except Fault (Option Node) :=
  match path.check with
  | .error _ => .ok none
  | .ok () =>
    match s.files.find s.here path with
    | .ok (_, node) => .ok (some node)
    | .error .nameTooLong => .error (.path .nameTooLong path.text)
    | .error _ => .ok none

def isFile (s : Session) (path : FilePath) : Except Fault Bool :=
  (s.kindOf path).map fun
    | some (.file _) => true
    | _ => false

def isFolder (s : Session) (path : FilePath) : Except Fault Bool :=
  (s.kindOf path).map fun node? => node? = some .folder

/-- Why the text of a file cannot be read: the file cannot be opened, its bytes are no text, or the
path is refused. -/
inductive ReadError where
  | path (error : PathError)
  | undecodable (flaw : Utf8.Undecodable)
  | refused (fault : Fault)
deriving Repr

/-- The text of a file, with its line ends unified. -/
def readText (s : Session) (path : FilePath) : Except ReadError Text :=
  match path.check with
  | .error fault => .error (.refused fault)
  | .ok () =>
    match s.files.readBytes s.here path with
    | .error e => .error (.path e)
    | .ok bytes =>
      match Utf8.decode bytes with
      | .error flaw => .error (.undecodable flaw)
      | .ok t => .ok t.unifyLineEnds

end Session

end ClassVerification
