import ClassVerification.Dispatch
import ClassVerification.Polling
import ClassVerification.Toolchain.Basic

/-!
A whole verification: whether the class is known, if that is asked; a local build, if there is a
compiler; the submission; and then the job is followed to its end. Each stage begins when all before
it have succeeded.
-/

namespace ClassVerification

/-- The version of this library. -/
def version : Text := "0.1.0"

/-- The arguments of a verification. -/
structure Verification where
  network : Text
  classHash : Text
  submission : Submission
  ceiling : Option Int := none
  compiler : Option Compiler := none
  checkClass : Bool := false
  /-- The root that the folder of the project is relative to, if not the working directory. -/
  root : Option FilePath := none

namespace Verification

def logger : Text := "voyager_verifier.orchestration.verification_flow"

/-- The fields that are bound while a verification runs. -/
def scope (v : Verification) : Members Json :=
  [("network", .text v.network), ("class_hash", .text v.classHash)]

def scopeNames : List Text := ["network", "class_hash"]

/-- Stops if the class is unknown. -/
def checkStage (v : Verification) (settings : Settings) : SessionM Unit := do
  if !(← Dispatch.classExists settings v.network v.classHash) then
    SessionM.fail (.classNotFound v.classHash v.network)

/-- The folder of the project. -/
def projectFolder (v : Verification) (s : Session) : FilePath :=
  (v.root.getD s.folder).join (FilePath.ofText v.submission.metadata.folder)

/-- Builds the project, if the compiler declares its versions. -/
def compileStage (v : Verification) (c : Compiler) : SessionM Unit := do
  let metadata := v.submission.metadata
  if !c.supports metadata.scarbVersion metadata.cairoVersion then
    SessionM.fail (.unsupportedToolchain metadata.scarbVersion metadata.cairoVersion)
  let folder := v.projectFolder (← get)
  SessionM.log .info logger "verification.compiling" [("project", .text folder.text)]
  c.compileProject folder

/-- The stages, one after the other. -/
def stages (v : Verification) (settings : Settings) : SessionM JobRecord := do
  if v.checkClass then v.checkStage settings
  match v.compiler with
  | some c => v.compileStage c
  | none => pure ()
  let jobId ← Dispatch.submit settings v.network v.classHash v.submission
  let record ← Polling.follow settings v.network jobId v.ceiling
  SessionM.log .info logger "verification.succeeded" [
    ("job_id", .text jobId),
    ("contract", record.name.elim .null .text)]
  return record

/-- Runs work with fields bound. However it ends, no field of these names is bound after it. -/
def inScope {α : Type} (fields : Members Json) (names : List Text) (work : SessionM α) :
    SessionM α := fun s =>
  let (outcome, s) := Session.run work (s.bind fields)
  (outcome, s.unbind names)

/-- Verifies a class and returns the record of the job when it has succeeded. -/
def run (v : Verification) (settings : Settings) : SessionM JobRecord :=
  inScope v.scope scopeNames (v.stages settings)

end Verification

end ClassVerification
