import ClassVerification.Json.Basic

/-!
The declared failures of a verification: every way in which submitting a class, following its job
or building its project can end without a verdict of success.
-/

namespace ClassVerification

/-- What keeps a project from being built or searched for contracts. -/
inductive ProjectDefect where
  | noManifest
  | unreadableManifest (reason : Text)
  | noPackage
  | noContractTarget
  | noSources
  | noSuchFile
  | noManifestAbove
  | notAFolder
  | other (reason : Text)
deriving DecidableEq, Repr

def manifestName : Text := "Scarb.toml"

def ProjectDefect.message : ProjectDefect → Text
  | .noManifest => manifestName ++ " not found"
  | .unreadableManifest reason => "unreadable " ++ manifestName ++ ": " ++ reason
  | .noPackage => "missing [package] table"
  | .noContractTarget => "missing [[target.starknet-contract]] section"
  | .noSources => "no .cairo sources under src/"
  | .noSuchFile => "file does not exist"
  | .noManifestAbove => "no " ++ manifestName ++ " in any parent directory"
  | .notAFolder => "not a directory"
  | .other reason => reason

/-- What went wrong with a run of the toolchain. -/
inductive BuildDefect where
  | timedOut (command : List Text) (seconds : Int)
  | cannotRun (binary reason : Text)
  | failed (project : Text) (exitCode : Int)
  | other (message : Text)
deriving DecidableEq, Repr

def BuildDefect.message : BuildDefect → Text
  | .timedOut command seconds =>
    Text.join " " command ++ " timed out after " ++ Text.ofInt seconds ++ "s"
  | .cannotRun binary reason => "Cannot run scarb binary " ++ binary.quoted ++ ": " ++ reason
  | .failed project exitCode =>
    "scarb build failed in " ++ project ++ " with exit code " ++ Text.ofInt exitCode
  | .other message => message

inductive Failure where
  | general (message code : Text)
  | configuration (message : Text)
  | unreadableFile (path reason : Text)
  | transport (url reason : Text)
  | protocol (message code : Text)
  | unexpectedResponse (context : Text) (status : Int) (body : Text)
  | unknownJobStatus (status : Json)
  | jobNotFound (identifier : Text)
  | classNotFound (classHash network : Text)
  | badRequest (error : Text)
  | jobFailed (jobId description summary : Text)
  | compilationFailed (jobId description : Text)
  | timedOut (jobId : Text) (attempts : Int)
  | compiler (message code : Text)
  | invalidProject (path : Text) (defect : ProjectDefect)
  | build (defect : BuildDefect) (stdout stderr : Text) (exitCode : Option Int)
  | unsupportedToolchain (scarb cairo : Text)
deriving Repr

namespace Failure

def message : Failure → Text
  | .general message _ => message
  | .configuration message => message
  | .unreadableFile path reason => "Failed to read " ++ path ++ ": " ++ reason
  | .transport url reason => "Request to " ++ url ++ " failed: " ++ reason
  | .protocol message _ => message
  | .unexpectedResponse context status body =>
    context ++ " with status " ++ Text.ofInt status ++ ": " ++ body
  | .unknownJobStatus status => "Unknown status: " ++ status.plain
  | .jobNotFound identifier => "Job not found: " ++ identifier
  | .classNotFound classHash network => "Class " ++ classHash ++ " not found on " ++ network
  | .badRequest error => "Failed to dispatch verification job with status 400: " ++ error
  | .jobFailed _ description summary => summary ++ ": " ++ description
  | .compilationFailed _ description => "Compilation failed: " ++ description
  | .timedOut jobId attempts =>
    "Timeout: Verification job took too long to complete (job " ++ jobId ++ ", " ++
      Text.ofInt attempts ++ " polls)"
  | .compiler message _ => message
  | .invalidProject path defect => "Invalid project at " ++ path ++ ": " ++ defect.message
  | .build defect _ _ _ => defect.message
  | .unsupportedToolchain scarb cairo =>
    "Unsupported toolchain: scarb " ++ scarb ++ " with cairo " ++ cairo

/-- A stable name for the kind of failure. -/
def code : Failure → Text
  | .general _ code | .protocol _ code | .compiler _ code => code
  | .configuration _ => "CONFIGURATION_ERROR"
  | .unreadableFile _ _ => "FILE_READ_ERROR"
  | .transport _ _ => "TRANSPORT_ERROR"
  | .unexpectedResponse _ _ _ => "UNEXPECTED_RESPONSE"
  | .unknownJobStatus _ => "UNKNOWN_JOB_STATUS"
  | .jobNotFound _ => "JOB_NOT_FOUND"
  | .classNotFound _ _ => "CLASS_NOT_FOUND"
  | .badRequest _ => "BAD_REQUEST"
  | .jobFailed _ _ _ => "JOB_FAILED"
  | .compilationFailed _ _ => "COMPILATION_FAILED"
  | .timedOut _ _ => "VERIFICATION_TIMEOUT"
  | .invalidProject _ _ => "ARTIFACT_DISCOVERY_ERROR"
  | .build _ _ _ _ => "COMPILATION_ERROR"
  | .unsupportedToolchain _ _ => "UNSUPPORTED_TOOLCHAIN"

/-- The code of a failure that no more is said about. -/
def generalCode : Text := "VOYAGER_VERIFIER_ERROR"

def protocolCode : Text := "PROTOCOL_ERROR"

def compilerCode : Text := "COMPILER_ERROR"

/-- An answer of the service that does not have the shape it should have. -/
def malformedAnswer (message : Text) : Failure := .protocol message protocolCode

/-- The summary of a job that the service reports as failed. -/
def failedToVerify : Text := "Failed to verify"

/-- What a build printed: its two outputs, an empty one left out. -/
def diagnostics (stdout stderr : Text) : Text :=
  Text.join "\n" ([stdout, stderr].filter (· != []))

end Failure

end ClassVerification
