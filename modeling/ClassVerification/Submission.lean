import ClassVerification.Multipart
import ClassVerification.Session

/-!
What is submitted for verification: the toolchain and layout of a project, and its source files.
-/

namespace ClassVerification

/-- The toolchain and layout of a project. The folder is relative to the root of the bundle. -/
structure ProjectMetadata where
  cairoVersion : Text
  scarbVersion : Text
  folder : Text
  contractFile : Text
deriving DecidableEq, Repr

/-- A source file: the name it is submitted under, and where it is read from. -/
structure SourceFile where
  name : Text
  path : FilePath
deriving DecidableEq, Repr

def SourceFile.fieldName (f : SourceFile) : Text := "files__" ++ f.name

/-- A contract and all that is told about it. -/
structure Submission where
  license : Text
  name : Text
  metadata : ProjectMetadata
  files : List SourceFile
deriving DecidableEq, Repr

namespace Submission

/-- The fields that describe the project. -/
def metadataFields (s : Submission) : List Multipart.FormField := [
  ("compiler_version", s.metadata.cairoVersion),
  ("scarb_version", s.metadata.scarbVersion),
  ("license", s.license),
  ("name", s.name),
  ("contract_file", s.metadata.contractFile),
  ("project_dir_path", s.metadata.folder)]

/-- The field of a source file. A file that cannot be opened or whose bytes are no text is a
failure; a path that the system refuses is a fault. -/
def readField (session : Session) (f : SourceFile) : Except Error Multipart.FormField :=
  match session.readText f.path with
  | .ok t => .ok (f.fieldName, t)
  | .error (.path e) =>
    .error (.failure (.unreadableFile f.path.text (Fault.pathMessage e f.path.text)))
  | .error (.undecodable flaw) =>
    .error (.failure (.unreadableFile f.path.text (Fault.undecodableMessage flaw)))
  | .error (.refused fault) => .error (.fault fault)

/-- The fields of the source files, in order, up to the first that cannot be read. -/
def readFields (session : Session) : List SourceFile → Except Error (List Multipart.FormField)
  | [] => .ok []
  | f :: rest =>
    match readField session f with
    | .error e => .error e
    | .ok field => (readFields session rest).map (field :: ·)

/-- The fields of the form that a submission is sent as. -/
def formFields (session : Session) (s : Submission) : Except Error (List Multipart.FormField) :=
  (readFields session s.files).map (s.metadataFields ++ ·)

end Submission

end ClassVerification
