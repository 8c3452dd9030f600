import ClassVerification.Discovery
import ClassVerification.Settings.Current
import ClassVerification.Toolchain.Version

/-!
The toolchains that a project can be built with. A build first asks the tool for its version, so
that no project is built with another toolchain than the one that is announced.
-/

namespace ClassVerification

/-- What a verification asks of a compiler: the versions it declares, and a build that returns if it
succeeds. -/
structure Compiler where
  scarbVersions : List Text
  cairoVersions : List Text
  compileProject : FilePath → SessionM Unit

/-- Whether a compiler declares a pair of versions. -/
def Compiler.supports (c : Compiler) (scarb cairo : Text) : Bool :=
  c.scarbVersions.contains scarb && c.cairoVersions.contains cairo

/-- The supported releases, each with one version of the build tool and one of the language. -/
inductive Release where
  | v250
  | v284
deriving DecidableEq, Repr

namespace Release

def all : List Release := [.v250, .v284]

def scarb : Release → Text
  | .v250 => "2.5.0"
  | .v284 => "2.8.4"

def cairo : Release → Text
  | .v250 => "2.5.0"
  | .v284 => "2.8.4"

def ofVersions? (scarbVersion cairoVersion : Text) : Option Release :=
  all.find? fun r => r.scarb = scarbVersion && r.cairo = cairoVersion

/-- The release of a pair of versions told by data. -/
def ofJson (scarbVersion cairoVersion : Json) : Except Failure Release :=
  let release? := match scarbVersion, cairoVersion with
    | .text s, .text c => ofVersions? s c
    | _, _ => none
  match release? with
  | some r => .ok r
  | none => .error (.unsupportedToolchain scarbVersion.plain cairoVersion.plain)

end Release

/-- A release with the settings that say how its build tool is run. -/
structure Toolchain where
  release : Release
  settings : Settings
deriving DecidableEq, Repr

namespace Toolchain

def logger : Text := "voyager_verifier.compilers.scarb"

/-- The outputs and the exit code of a run that came to its end. -/
structure Finished where
  stdout : Text
  stderr : Text
  exitCode : Int
deriving DecidableEq, Repr

def toolRun (t : Toolchain) (arguments : List Text) (folder : FilePath) : ToolRun :=
  ⟨t.settings.scarbBinary :: arguments, folder.text, t.settings.compileTimeout⟩

/-- What a run comes to. A run that is cut short keeps what it had printed. -/
def finish (run : ToolRun) (binary : Text) : RunOutcome → Except Failure Finished
  | .finished stdout stderr exitCode => .ok ⟨stdout, stderr, exitCode⟩
  | .timedOut stdout stderr =>
    .error (.build (.timedOut run.command run.timeout) stdout.asText stderr.asText none)
  | .notStarted e => .error (.build (.cannotRun binary e.message) [] [] none)

/-- Runs the build tool in a folder. -/
def run (t : Toolchain) (arguments : List Text) (folder : FilePath) : SessionM Finished := do
  let run := t.toolRun arguments folder
  SessionM.record [.ran run]
  match (← get).toolRuns with
  | [] => SessionM.fault .noToolRunLeft
  | outcome :: rest =>
    modify fun s => { s with toolRuns := rest }
    match finish run t.settings.scarbBinary outcome with
    | .ok finished => return finished
    | .error f => SessionM.fail f

/-- The version that the build tool reports, if it reports one. -/
def installedVersion (t : Toolchain) (folder : FilePath) : SessionM (Option Text) := do
  return installedVersion? (← t.run ["--version"] folder).stdout

/-- Stops unless the build tool has the version of the release. -/
def ensureVersion (t : Toolchain) (folder : FilePath) : SessionM Unit := do
  let installed ← t.installedVersion folder
  if installed != some t.release.scarb then
    SessionM.log .warning logger "compiler.version_mismatch" [
      ("expected", .text t.release.scarb),
      ("installed", installed.elim .null .text)]
    SessionM.fail (.unsupportedToolchain (installed.getD "unknown") t.release.cairo)

def buildArguments (project : FilePath) : List Text :=
  ["--manifest-path", (project.child manifestName).text, "build"]

/-- Builds a project, in its folder. -/
def build (t : Toolchain) (project : FilePath) : SessionM Unit := do
  let name : Text × Json := ("project", .text project.text)
  SessionM.log .info logger "compiler.build.start" [name]
  let r ← t.run (buildArguments project) project
  if r.exitCode != 0 then
    SessionM.log .info logger "compiler.build.failed" [name, ("exit_code", .int r.exitCode)]
    SessionM.fail (.build (.failed project.text r.exitCode) r.stdout r.stderr (some r.exitCode))
  SessionM.log .info logger "compiler.build.passed" [name]

/-- Builds a project, which has to be a folder, with the version of the release. -/
def compileProject (t : Toolchain) (project : FilePath) : SessionM Unit := do
  if !(← SessionM.orFault ((← get).isFolder project)) then
    SessionM.fail (.invalidProject project.text .notAFolder)
  t.ensureVersion project
  t.build project

/-- Builds the project that a file belongs to. -/
def compileFile (t : Toolchain) (file : FilePath) : SessionM Unit := do
  let root ← SessionM.ofExcept (Discovery.projectRoot (← get) file)
  t.compileProject root

def compiler (t : Toolchain) : Compiler where
  scarbVersions := [t.release.scarb]
  cairoVersions := [t.release.cairo]
  compileProject := t.compileProject

/-- The toolchain of a pair of versions told by data, with the given or the shared settings. -/
def create (scarbVersion cairoVersion : Json) (settings : Option Settings) :
    SessionM Toolchain := do
  match Release.ofJson scarbVersion cairoVersion with
  | .ok release => return ⟨release, ← Settings.orCurrent settings⟩
  | .error f => SessionM.fail f

end Toolchain

/-- A compiler that only notes what it is asked to build, and may fail at it. -/
def Compiler.dryRun (scarbVersions cairoVersions : List Text) (failure : Option Failure) :
    Compiler where
  scarbVersions
  cairoVersions
  compileProject := fun project => do
    SessionM.record [.compiled project.text]
    match failure with
    | some f => SessionM.fail f
    | none => pure ()

end ClassVerification
