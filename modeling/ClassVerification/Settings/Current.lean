import ClassVerification.Session

/-!
The settings of a session: read from its environment and its file of assignments, and kept from the
first time on.
-/

namespace ClassVerification.Settings

def fileName : Text := ".env"

/-- The text of the session's file, none if there is no such file. -/
def fileText? (s : Session) : Except Error (Option Text) :=
  let path := FilePath.ofText fileName
  match s.isFile path with
  | .error fault => .error (.fault fault)
  | .ok false => .ok none
  | .ok true =>
    match s.readText path with
    | .ok t => .ok (some t)
    | .error (.undecodable flaw) => .error (.fault (.undecodable flaw))
    | .error (.path e) => .error (.fault (.path e path.text))
    | .error (.refused fault) => .error (.fault fault)

/-- The notice that a statement of the file cannot be read. -/
def unreadableNotice (line : Nat) : Notice where
  level := .warning
  logger := "dotenv.main"
  message := "python-dotenv could not parse statement starting at line " ++ Text.ofNat line

/-- The assignments of the session's file, with a notice for each statement that is none. -/
def readFile : SessionM (Members (Option Text)) := do
  let s ← get
  match ← SessionM.ofExcept (fileText? s) with
  | none => return []
  | some t =>
    SessionM.record ((DotEnv.unreadableLines t).map fun line => .noticed (unreadableNotice line))
    return DotEnv.ofText s.environment t

/-- Settings with overrides, from the session's environment and its file. -/
def fresh (overrides : Members Json) : SessionM Settings := do
  let file ← readFile
  SessionM.ofExcept (load overrides (← get).environment file)

/-- Settings with overrides that leave the file aside. -/
def withoutFile (overrides : Members Json) : SessionM Settings := do
  SessionM.ofExcept (load overrides (← get).environment [])

/-- The settings that all parts share, with a mark whether they had been read before. Settings that
cannot be read are not kept. -/
def current : SessionM (Settings × Bool) := do
  match (← get).cachedSettings with
  | some settings => return (settings, true)
  | none =>
    let settings ← fresh []
    modify fun s => { s with cachedSettings := some settings }
    return (settings, false)

/-- The given settings, or else the shared ones. -/
def orCurrent : Option Settings → SessionM Settings
  | some settings => pure settings
  | none => return (← current).1

def clearCache : SessionM Unit := modify fun s => { s with cachedSettings := none }

end ClassVerification.Settings
