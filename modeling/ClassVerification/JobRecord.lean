import ClassVerification.Field
import ClassVerification.JobStatus.Decode

/-!
The bodies that the service answers with: the record of a job, the receipt of a submission and the
reason of a rejection. Each is an object whose fields are checked in the order of declaration.
-/

namespace ClassVerification

structure JobRecord where
  jobId : Text
  status : Int
  statusDescription : Option Text
  classHash : Text
  createdTimestamp : Option Binary64
  updatedTimestamp : Option Binary64
  address : Option Text
  contractFile : Option Text
  name : Option Text
  version : Option Text
  license : Option Text
deriving DecidableEq, Repr

/-- The members of an object; nothing else is a record. -/
def recordMembers : Json → Except (List FieldDefect) (Members Json)
  | .object members => .ok members
  | _ => .error [⟨[], .notARecord⟩]

namespace JobRecord

def optionalText (members : Members Json) (name : Text) : Except FieldDefect (Option Text) :=
  Field.withDefault none (Field.optional Field.text) members name

def optionalTime (members : Members Json) (name : Text) : Except FieldDefect (Option Binary64) :=
  Field.withDefault none (Field.optional Field.float) members name

/-- The record that members spell, or what is wrong with each of them. -/
def ofMembers (members : Members Json) : Except (List FieldDefect) JobRecord :=
  let jobId := Field.required Field.text members "job_id"
  let status := Field.required Field.strictInt members "status"
  let statusDescription := optionalText members "status_description"
  let classHash := Field.required Field.text members "class_hash"
  let createdTimestamp := optionalTime members "created_timestamp"
  let updatedTimestamp := optionalTime members "updated_timestamp"
  let address := optionalText members "address"
  let contractFile := optionalText members "contract_file"
  let name := optionalText members "name"
  let version := optionalText members "version"
  let license := optionalText members "license"
  let record : Except FieldDefect JobRecord := do
    return {
      jobId := ← jobId
      status := ← status
      statusDescription := ← statusDescription
      classHash := ← classHash
      createdTimestamp := ← createdTimestamp
      updatedTimestamp := ← updatedTimestamp
      address := ← address
      contractFile := ← contractFile
      name := ← name
      version := ← version
      license := ← license }
  match record with
  | .ok record => .ok record
  | .error _ =>
    .error (Field.defect? jobId ++ Field.defect? status ++ Field.defect? statusDescription ++
      Field.defect? classHash ++ Field.defect? createdTimestamp ++ Field.defect? updatedTimestamp ++
      Field.defect? address ++ Field.defect? contractFile ++ Field.defect? name ++
      Field.defect? version ++ Field.defect? license)

def ofJson (value : Json) : Except (List FieldDefect) JobRecord :=
  (recordMembers value).bind ofMembers

/-- The status that the record's code stands for. -/
def jobStatus (r : JobRecord) : Except Failure JobStatus := JobStatus.ofCode (.int r.status)

end JobRecord

/-- A required text in an object. -/
def textField (name : Text) (value : Json) : Except (List FieldDefect) Text :=
  (recordMembers value).bind fun members =>
    match Field.required Field.text members name with
    | .ok t => .ok t
    | .error defect => .error [defect]

/-- The job id in the receipt of a submission. -/
def receiptOf (value : Json) : Except (List FieldDefect) Text := textField "job_id" value

/-- The reason in the answer to a rejected submission. -/
def rejectionOf (value : Json) : Except (List FieldDefect) Text := textField "error" value

end ClassVerification
